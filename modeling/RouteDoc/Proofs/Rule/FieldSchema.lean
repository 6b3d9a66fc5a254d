import RouteDoc.Rule.Mapping
/-!
# RouteDoc.Proofs.Rule.FieldSchema

**What the rules of a field can write.** A schema that was made by rules is flat: it has one of six
types, it has no properties, and its items are those of an array about which nothing is known, which
an array never lacks. `isFlat_mapField` says so for the rules of any field; placing a schema among
others relies on nothing else about it.

Every rule writes a list of entries over the schema before it (`Writes`). So the proof looks at these
lists: `Writable` says which ones keep a schema flat, and the table of effects is looked through once
for all.
-/

namespace RouteDoc.Rule

/-- The types that a schema can have. -/
def schemaTypes : List String := ["string", "integer", "number", "boolean", "array", "object"]

/-- A schema without nodes below it but unknown items. -/
structure IsFlat (schema : Fragment) : Prop where
  /-- No key is there twice. -/
  nodup : (Table.keys schema).Nodup
  /-- There is a type, one of six. -/
  typed : ∃ type ∈ schemaTypes, Table.get? schema "type" = some (.str type)
  /-- There are no properties. -/
  properties : Table.get? schema "properties" = none
  /-- Items are those of an array of unknown items. -/
  items : ∀ v, Table.get? schema "items" = some v → v = .obj defaultItems
  /-- An array has items. -/
  array : hasType schema "array" = true → Table.has schema "items" = true

/-! ### Entries that keep a schema flat -/

/-- Whether entries may be written over a flat schema. -/
structure Writable (new : Fragment) : Prop where
  properties : "properties" ∉ Table.keys new
  typed : ∀ e ∈ new, e.1 = "type" → ∃ type ∈ schemaTypes, e.2 = .str type
  items : ∀ e ∈ new, e.1 = "items" → e.2 = .obj defaultItems
  array : ("type", .str "array") ∈ new → "items" ∈ Table.keys new
  nullable : ∀ e ∈ new, e.1 = "nullable" → e.2 = .bool true

theorem writable_iff {new : Fragment} : Writable new ↔ "properties" ∉ Table.keys new ∧
    (∀ e ∈ new, e.1 = "type" → ∃ type ∈ schemaTypes, e.2 = .str type) ∧
    (∀ e ∈ new, e.1 = "items" → e.2 = .obj defaultItems) ∧
    (("type", .str "array") ∈ new → "items" ∈ Table.keys new) ∧
    (∀ e ∈ new, e.1 = "nullable" → e.2 = .bool true) :=
  ⟨fun h => ⟨h.properties, h.typed, h.items, h.array, h.nullable⟩,
    fun ⟨hp, ht, hi, ha, hn⟩ => ⟨hp, ht, hi, ha, hn⟩⟩

instance : DecidablePred Writable := fun _ => decidable_of_iff' _ writable_iff

theorem Writable.append {new more : Fragment} (h : Writable new) (h' : Writable more) :
    Writable (new ++ more) := by
  have hkeys : Table.keys (new ++ more) = Table.keys new ++ Table.keys more := List.map_append
  refine ⟨?_, ?_, ?_, ?_, ?_⟩
  · rw [hkeys, List.mem_append]
    exact not_or.2 ⟨h.properties, h'.properties⟩
  · intro e he
    exact (List.mem_append.1 he).elim (h.typed e) (h'.typed e)
  · intro e he
    exact (List.mem_append.1 he).elim (h.items e) (h'.items e)
  · intro he
    rw [hkeys, List.mem_append]
    exact (List.mem_append.1 he).imp h.array h'.array
  · intro e he
    exact (List.mem_append.1 he).elim (h.nullable e) (h'.nullable e)

/-- The keys of which the rules write fixed values only. -/
def fixedKeys : List String := ["properties", "type", "items", "nullable"]

/-- A key that says nothing about what is below a node, about its type or about null. -/
theorem writable_of_not_mem {key : String} (v : Value) (h : key ∉ fixedKeys) :
    Writable [(key, v)] := by
  simp only [fixedKeys, List.mem_cons, List.not_mem_nil, or_false, not_or] at h
  obtain ⟨hproperties, htype, hitems, hnullable⟩ := h
  refine ⟨?_, ?_, ?_, ?_, ?_⟩
  · simpa [Table.keys] using Ne.symm hproperties
  · simp [htype]
  · simp [hitems]
  · simp [Ne.symm htype]
  · simp [hnullable]

/-- A schema was made of another one by writing entries over it. -/
def Writes (schema result : Fragment) : Prop :=
  ∃ new, Writable new ∧ result = Table.insertAll schema new

theorem Writes.refl (schema : Fragment) : Writes schema schema :=
  ⟨[], by decide, rfl⟩

theorem Writes.trans {schema next result : Fragment} (h : Writes schema next)
    (h' : Writes next result) : Writes schema result := by
  obtain ⟨new, hnew, rfl⟩ := h
  obtain ⟨more, hmore, rfl⟩ := h'
  exact ⟨new ++ more, hnew.append hmore, (Table.insertAll_append schema new more).symm⟩

theorem writes_insertAll (schema : Fragment) {new : Fragment} (h : Writable new) :
    Writes schema (Table.insertAll schema new) :=
  ⟨new, h, rfl⟩

theorem writes_insert (schema : Fragment) {key : String} (v : Value)
    (h : key ∉ fixedKeys) : Writes schema (Table.insert schema key v) :=
  writes_insertAll schema (writable_of_not_mem v h)

/-- Writing two entries, the first of which has no say about the second. -/
theorem writes_insert_insert (schema : Fragment) {key other : String} (v w : Value)
    (h : key ∉ fixedKeys) (h' : other ∉ fixedKeys) :
    Writes schema (Table.insert (Table.insert schema key v) other w) :=
  (writes_insert schema v h).trans (writes_insert _ w h')

/-- What is written over a flat schema leaves it flat. -/
theorem IsFlat.writes {schema result : Fragment} (h : IsFlat schema) (hw : Writes schema result) :
    IsFlat result := by
  obtain ⟨new, hnew, rfl⟩ := hw
  refine ⟨Table.nodup_keys_insertAll new h.nodup, ?_, ?_, ?_, ?_⟩
  · obtain ⟨old, _, hold⟩ := h.typed
    have hkey : "type" ∈ Table.keys (Table.insertAll schema new) :=
      Table.mem_keys_insertAll.2 (.inl (Table.mem_keys_iff.2 ⟨_, hold⟩))
    obtain ⟨v, hv⟩ := Table.mem_keys_iff.1 hkey
    rw [hv]
    rcases Table.mem_of_get?_insertAll hv with hwritten | hkept
    · obtain ⟨type, htype, rfl⟩ := hnew.typed _ hwritten rfl
      exact ⟨type, htype, rfl⟩
    · rw [← hkept]
      exact h.typed
  · rw [Table.get?_eq_none_iff, Table.mem_keys_insertAll]
    exact not_or.2 ⟨Table.get?_eq_none_iff.1 h.properties, hnew.properties⟩
  · intro v hv
    rcases Table.mem_of_get?_insertAll hv with hwritten | hkept
    · exact hnew.items _ hwritten rfl
    · exact h.items v hkept
  · intro harray
    rw [Table.has_iff_mem_keys, Table.mem_keys_insertAll]
    rcases Table.mem_of_get?_insertAll (of_decide_eq_true harray) with hwritten | hkept
    · exact .inr (hnew.array hwritten)
    · exact .inl (Table.has_iff_mem_keys.1 (h.array (decide_eq_true hkept)))

theorem isFlat_plainField : IsFlat plainField :=
  ⟨by decide, ⟨"string", by decide, rfl⟩, rfl, by simp [plainField, Table.get?], by decide⟩

/-! ### Tokens -/

/-- The fixed entries that an effect writes. -/
def TokenEffect.fixed : TokenEffect → Fragment
  | .set keys => keys
  | _ => []

theorem writable_fixed : ∀ e ∈ tokenEffects, Writable e.2.fixed := by
  decide

theorem boundKeys_not_mem : ∀ e ∈ boundKeys,
    e.2.1 ∉ fixedKeys ∧ e.2.2 ∉ fixedKeys := by
  decide

theorem currentBounds_not_mem {schema : Fragment} {low high : String}
    (h : currentBounds? schema = some (low, high)) :
    low ∉ fixedKeys ∧ high ∉ fixedKeys := by
  unfold currentBounds? at h
  split at h
  · exact boundKeys_not_mem _ (Table.mem_of_get? h)
  · simp at h

/-- A string type, and a further key. -/
theorem writes_string (schema : Fragment) {key : String} (v : Value)
    (h : key ∉ fixedKeys) :
    Writes schema (Table.insertAll schema [("type", .str "string"), (key, v)]) := by
  have htype : Writable [("type", .str "string")] := by decide
  exact writes_insertAll schema (htype.append (writable_of_not_mem v h))

/-- An effect writes its fixed entries, a string type with another key, or bounds under keys from a
table. -/
theorem TokenEffect.writes_apply {effect : TokenEffect} (hfixed : Writable effect.fixed)
    (schema : Fragment) (t : Token) : Writes schema (effect.apply schema t) := by
  cases effect with
  | set keys => exact writes_insertAll schema hfixed
  | lowerBound =>
      simp only [TokenEffect.apply]
      split
      · rename_i a _ low high _ hbounds
        cases number? a with
        | none => exact Writes.refl schema
        | some n => exact writes_insert schema n (currentBounds_not_mem hbounds).1
      · exact Writes.refl schema
  | upperBound =>
      simp only [TokenEffect.apply]
      split
      · rename_i a _ low high _ hbounds
        cases number? a with
        | none => exact Writes.refl schema
        | some n => exact writes_insert schema n (currentBounds_not_mem hbounds).2
      · exact Writes.refl schema
  | between =>
      simp only [TokenEffect.apply]
      split
      · rename_i a b _ low high _ hbounds
        obtain ⟨hlow, hhigh⟩ := currentBounds_not_mem hbounds
        split
        · exact writes_insert_insert schema _ _ hlow hhigh
        · exact Writes.refl schema
      · exact Writes.refl schema
  | size =>
      simp only [TokenEffect.apply]
      split
      · rename_i a _ low high _ hbounds
        obtain ⟨hlow, hhigh⟩ := currentBounds_not_mem hbounds
        cases number? a with
        | none => exact Writes.refl schema
        | some n => exact writes_insert_insert schema n n hlow hhigh
      · exact Writes.refl schema
  | digits =>
      simp only [TokenEffect.apply]
      split
      · split
        · exact writes_string schema _ (by decide)
        · exact Writes.refl schema
      · exact Writes.refl schema
  | digitsBetween =>
      simp only [TokenEffect.apply]
      split
      · split
        · exact writes_string schema _ (by decide)
        · exact Writes.refl schema
      · exact Writes.refl schema
  | dateFormat =>
      simp only [TokenEffect.apply]
      split
      · exact writes_string schema _ (by decide)
      · exact writes_string schema _ (by decide)
  | oneOf =>
      simp only [TokenEffect.apply]
      split
      · exact Writes.refl schema
      · exact writes_insert schema _ (by decide)
  | pattern =>
      simp only [TokenEffect.apply]
      split
      · exact Writes.refl schema
      · exact Writes.refl schema
      · exact writes_insert schema _ (by decide)

theorem Token.writes_apply (t : Token) (schema : Fragment) : Writes schema (t.apply schema) := by
  unfold Token.apply
  split
  · rename_i effect heffect
    exact TokenEffect.writes_apply (writable_fixed _ (Table.mem_of_get? heffect)) schema t
  · exact Writes.refl schema

/-! ### Rule objects -/

theorem Object.writes_withBacking (o : Object) (schema : Fragment) :
    Writes schema (o.withBacking schema) := by
  unfold Object.withBacking
  split
  · have htype : Writable [("type", .str "integer")] := by decide
    exact writes_insertAll schema htype
  · have htype : Writable [("type", .str "string")] := by decide
    exact writes_insertAll schema htype
  · exact Writes.refl schema

theorem writes_applyEnum {o : Object} {schema result : Fragment}
    (h : applyEnum o schema = .ok result) : Writes schema result := by
  have hbacking := o.writes_withBacking schema
  unfold applyEnum at h
  dsimp only at h
  split at h
  · cases hvalues : o.values with
    | error fault => simp [hvalues, Except.map] at h
    | ok values =>
        simp only [hvalues, Except.map, Except.ok.injEq] at h
        subst h
        exact hbacking.trans (writes_insert _ _ (by decide))
  · split at h
    · obtain rfl := Except.ok.inj h
      exact hbacking.trans (writes_insert _ _ (by decide))
    · obtain rfl := Except.ok.inj h
      exact hbacking

theorem Object.writes_apply {o : Object} {schema result : Fragment}
    (h : o.apply schema = .ok result) : Writes schema result := by
  unfold Object.apply at h
  cases hkind : o.kind <;> simp only [hkind] at h
  case password =>
    obtain rfl := Except.ok.inj h
    have hformat : Writable [("type", .str "string"), ("format", .str "password")] := by decide
    exact writes_insertAll schema (hformat.append (writable_of_not_mem _ (by decide)))
  case enum => exact writes_applyEnum h
  case oneOf =>
    cases hvalues : o.values with
    | error fault => simp [hvalues, bind, Except.bind] at h
    | ok values =>
        simp only [hvalues, bind, Except.bind] at h
        cases values with
        | nil =>
            obtain rfl := Except.ok.inj h
            exact Writes.refl schema
        | cons v rest =>
            obtain rfl := Except.ok.inj h
            exact writes_insert schema _ (by decide)
  case dimensions | file =>
    obtain rfl := Except.ok.inj h
    exact writes_string schema _ (by decide)
  case custom =>
    obtain rfl := Except.ok.inj h
    exact writes_insert schema _ (by decide)
  all_goals
    obtain rfl := Except.ok.inj h
    exact Writes.refl schema

/-! ### All rules of a field -/

/-- A rule that fails writes nothing. -/
theorem writes_applyItem (state : Fragment × List Diagnostic) (i : Item) :
    Writes state.1 (applyItem state i).1 := by
  unfold applyItem
  split
  · rename_i schema h
    cases i with
    | token t =>
        obtain rfl := Except.ok.inj h
        exact t.writes_apply state.1
    | object o => exact Object.writes_apply h
  · exact Writes.refl state.1

theorem writes_applyItems (items : List Item) (state : Fragment × List Diagnostic) :
    Writes state.1 (items.foldl applyItem state).1 := by
  induction items generalizing state with
  | nil => exact Writes.refl state.1
  | cons i rest ih => exact (writes_applyItem state i).trans (ih _)

/-- Whatever the rules of a field are, its schema is flat. -/
theorem isFlat_mapField (f : FieldName) (e : Expr) : IsFlat (mapField f e).schema := by
  unfold mapField
  split
  · exact isFlat_plainField.writes (writes_applyItems _ (plainField, []))
  · exact isFlat_plainField

end RouteDoc.Rule
