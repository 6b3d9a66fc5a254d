import RouteDoc.Proofs.Schema.Mentions
import RouteDoc.Schema.Registry
/-!
# RouteDoc.Proofs.Schema.Tracking

**What a registry knows of the references inside its schemas.** A stored record whose name has no
schema becomes a schema of its own, and what it refers to is noted. A record whose name has one
completes that schema, and nobody notes the references of an example that comes to it. `backfilled`
are the records that give such an example.

* `Sound` is the invariant: a name that a schema refers to is among the dependencies noted for the
  schema, or comes from the example of a backfilled record (`IsBackfilled`).
* `Grows` is what every use of a registry does to it: it stays sound and forgets neither a reference
  nor the name of a schema.
* `build_spec` says what a completed registry resolves: every name that was referred to elsewhere,
  and every name inside its schemas that is not from such an example.
* `Sound.hasExample_build` says that such an example stands in its schema at the end.
* `build_names` says whose schema a name has in a completed registry.
-/

namespace RouteDoc

open Schema

namespace Registry

/-- The example of a component. -/
def exampleOf (v : Value) : Option Value := v.entries?.bind (Table.get? · "example")

/-- Whether a stored record gives its example to a schema that is there. -/
def takesExample (r : Registry) (record : SchemaRecord) : Bool :=
  match r.get? record.name with
  | some schema => record.sample ≠ .null && (exampleOf schema).isNone
  | none => false

/-- The stored records that give their examples to schemas that are there, as they are laid below
one after the other. -/
def backfilled (r : Registry) : List SchemaRecord → List SchemaRecord
  | [] => []
  | record :: rest => match r.addExternal record with
      | .ok next => (if r.takesExample record then [record] else []) ++ next.backfilled rest
      | .error _ => []

/-- One of the records gave its example to the component of a name, and the example refers to `n`. -/
def IsBackfilled (filled : List SchemaRecord) (name : String) (v : Value) (n : String) : Prop :=
  ∃ record ∈ filled, record.name = name ∧ exampleOf v = some record.sample ∧
    n ∈ references componentPrefix record.sample

/-- The references inside the schemas of a registry are tracked, but for examples of the records. -/
structure Sound (filled : List SchemaRecord) (r : Registry) : Prop where
  /-- References are those to components. -/
  base : r.base = componentPrefix
  /-- No name is there twice. -/
  nodup : (Table.keys r.schemas).Nodup
  /-- Schemas are objects. -/
  objects : ∀ name v, Table.get? r.schemas name = some v → ∃ entries, v = .obj entries
  /-- What a schema refers to is a dependency of it, or came with an example. -/
  tracked : ∀ name v, Table.get? r.schemas name = some v → ∀ n ∈ references componentPrefix v,
    n ∈ r.dependenciesOf name ∨ IsBackfilled filled name v n

theorem sound_empty (filled records : List SchemaRecord) :
    Sound filled { external := records } where
  base := rfl
  nodup := List.nodup_nil
  objects := by simp
  tracked := by simp

variable {filled : List SchemaRecord}

/-- What using a registry does to it. -/
structure Grows (filled : List SchemaRecord) (r r' : Registry) : Prop where
  /-- It stays sound. -/
  sound : r.Sound filled → r'.Sound filled
  /-- The stored records stay. -/
  external : r'.external = r.external
  /-- No name that was referred to is forgotten. -/
  referenced : ∀ n ∈ r.referenced, n ∈ r'.referenced
  /-- No schema loses its name. -/
  names : ∀ n, r.has n = true → r'.has n = true

theorem Grows.refl (r : Registry) : Grows filled r r := ⟨id, rfl, fun _ hn => hn, fun _ hn => hn⟩

theorem Grows.trans {r r' r'' : Registry} (h : Grows filled r r') (h' : Grows filled r' r'') :
    Grows filled r r'' :=
  ⟨h'.sound ∘ h.sound, h'.external.trans h.external,
    fun n hn => h'.referenced n (h.referenced n hn), fun n hn => h'.names n (h.names n hn)⟩

theorem Grows.foldl {α : Type} {f : Registry → α → Registry} (h : ∀ r x, Grows filled r (f r x))
    (xs : List α) (r : Registry) : Grows filled r (xs.foldl f r) := by
  induction xs generalizing r with
  | nil => exact Grows.refl r
  | cons x xs ih => exact (h r x).trans (ih _)

/-! ### Names and schemas -/

theorem grows_noteNames (r : Registry) (names : List String) :
    Grows filled r (r.noteNames names) where
  sound := fun h => ⟨h.base, h.nodup, h.objects, h.tracked⟩
  external := rfl
  referenced := fun _ hn => List.mem_append_left _ hn
  names := fun _ hn => hn

theorem grows_note (r : Registry) (v : Value) : Grows filled r (r.note v) := grows_noteNames _ _

theorem grows_refer (r : Registry) (name : String) : Grows filled r (r.refer name).2 :=
  grows_noteNames _ _

/-- The references of a value that is kept elsewhere are noted. -/
theorem mem_referenced_note {r : Registry} (h : r.Sound filled) {v : Value} {n : String}
    (hn : n ∈ references componentPrefix v) : n ∈ (r.note v).referenced :=
  List.mem_append_right _ (h.base ▸ hn)

theorem dependenciesOf_add_self (r : Registry) (name : String) (v : Value) :
    (r.add name v).dependenciesOf name = references r.base v := by
  simp [dependenciesOf, add]

theorem dependenciesOf_add_of_ne (r : Registry) {name other : String} (v : Value)
    (h : name ≠ other) : (r.add name v).dependenciesOf other = r.dependenciesOf other := by
  rw [dependenciesOf, dependenciesOf, add, Table.get?_insert_of_ne _ _ h]

/-- Schemas stay objects when an object is written. -/
theorem objects_insert {schemas : Table String Value}
    (h : ∀ name v, Table.get? schemas name = some v → ∃ entries, v = .obj entries)
    (name : String) (entries : Fragment) (other : String) (v : Value)
    (hv : Table.get? (Table.insert schemas name (.obj entries)) other = some v) :
    ∃ entries, v = .obj entries := by
  rw [Table.get?_insert] at hv
  split at hv
  · exact ⟨entries, (Option.some.inj hv).symm⟩
  · exact h other v hv

theorem grows_add (r : Registry) (name : String) (entries : Fragment) :
    Grows filled r (r.add name (.obj entries)) where
  sound := by
    intro h
    refine ⟨h.base, Table.nodup_keys_insert _ _ h.nodup, objects_insert h.objects name entries, ?_⟩
    intro other v hv n hn
    rw [add, Table.get?_insert] at hv
    split at hv
    · rename_i heq
      obtain rfl := Option.some.inj hv
      rw [← heq, dependenciesOf_add_self, h.base]
      exact .inl hn
    · rename_i hne
      rw [dependenciesOf_add_of_ne _ _ hne]
      exact h.tracked other v hv n hn
  external := rfl
  referenced := fun _ hn => hn
  names := fun n hn => (has_add r name n _).2 (.inr hn)

/-- What is noted for a schema is wanted. -/
theorem mem_wanted_of_mem_dependenciesOf {r : Registry} {name n : String}
    (h : n ∈ r.dependenciesOf name) : n ∈ r.wanted := by
  unfold dependenciesOf at h
  cases hd : Table.get? r.dependencies name with
  | none => simp [hd] at h
  | some names =>
      rw [hd, Option.getD_some] at h
      refine List.mem_append_right _ (List.mem_flatten.2 ⟨names, ?_, h⟩)
      exact List.mem_map_of_mem (Table.mem_of_get? hd)

/-! ### Stored records -/

theorem get?_complete_of_ne (t : Fragment) {key k : String} (v : Option Value) (h : key ≠ k) :
    Table.get? (SchemaRecord.complete t key v) k = Table.get? t k := by
  cases v with
  | none => rfl
  | some v => rw [SchemaRecord.complete, Table.get?_insertIfNew, if_neg h]

/-- Completing a key keeps what is there. -/
theorem get?_complete_of_some {t : Fragment} {key : String} {old : Value} (v : Option Value)
    (h : Table.get? t key = some old) :
    Table.get? (SchemaRecord.complete t key v) key = some old := by
  cases v with
  | none => exact h
  | some v => rw [SchemaRecord.complete, Table.get?_insertIfNew, if_pos rfl, h, Option.getD_some]

/-- Completing a missing key writes the value. -/
theorem get?_complete_of_none {t : Fragment} {key : String} (w : Value)
    (h : Table.get? t key = none) :
    Table.get? (SchemaRecord.complete t key (some w)) key = some w := by
  rw [SchemaRecord.complete, Table.get?_insertIfNew, if_pos rfl, h, Option.getD_none]

/-- Completing a key adds no references but those of the new value of a missing key. -/
theorem mem_references_complete {t : Fragment} {key n : String} {v : Option Value}
    (hkey : key ≠ "$ref")
    (hn : n ∈ references componentPrefix (.obj (SchemaRecord.complete t key v))) :
    n ∈ references componentPrefix (.obj t) ∨ ∃ w, v = some w ∧ Table.get? t key = none ∧
      n ∈ references componentPrefix w := by
  cases v with
  | none => exact .inl hn
  | some w =>
      rw [SchemaRecord.complete, Table.insertIfNew] at hn
      split at hn
      · exact .inl hn
      · rename_i hnew
        rcases mem_references_insert (fun h => absurd h hkey) hn with hold | ⟨_, hw⟩
        · exact .inl hold
        · have hmissing : Table.get? t key = none := by
            rwa [Table.has, Option.not_isSome_iff_eq_none] at hnew
          exact .inr ⟨w, rfl, hmissing, hw⟩

/-- An object completed by a record. -/
def completed (record : SchemaRecord) (entries : Fragment) : Fragment :=
  SchemaRecord.complete
    (SchemaRecord.complete entries "description" ((Text.filled? record.description).map .str))
    "example" (if record.sample = .null then none else some record.sample)

theorem completeKey_obj (key : String) (v : Option Value) (entries : Fragment) :
    completeKey key v (.obj entries) = .ok (.obj (SchemaRecord.complete entries key v)) := by
  cases v <;> rfl

theorem completeBy_obj (record : SchemaRecord) (entries : Fragment) :
    completeBy record (.obj entries) = .ok (.obj (completed record entries)) := by
  unfold completeBy
  rw [completeKey_obj]
  exact completeKey_obj ..

/-- An example that stands already stays. -/
theorem exampleOf_completed {record : SchemaRecord} {entries : Fragment} {sample : Value}
    (h : exampleOf (.obj entries) = some sample) :
    exampleOf (.obj (completed record entries)) = some sample := by
  have hdescribed : Table.get? (SchemaRecord.complete entries "description"
      ((Text.filled? record.description).map .str)) "example" = some sample := by
    rw [get?_complete_of_ne _ _ (by decide)]
    exact h
  exact get?_complete_of_some _ hdescribed

/-- The example of a record comes to an object that has none. -/
theorem exampleOf_completed_of_none {record : SchemaRecord} {entries : Fragment}
    (hnull : record.sample ≠ .null) (h : exampleOf (.obj entries) = none) :
    exampleOf (.obj (completed record entries)) = some record.sample := by
  have hdescribed : Table.get? (SchemaRecord.complete entries "description"
      ((Text.filled? record.description).map .str)) "example" = none := by
    rw [get?_complete_of_ne _ _ (by decide)]
    exact h
  show Table.get? (completed record entries) "example" = some record.sample
  rw [completed, if_neg hnull, get?_complete_of_none _ hdescribed]

/-- The references of a completed object are the old ones, and those of an example where there was
none. -/
theorem mem_references_completed {record : SchemaRecord} {entries : Fragment} {n : String}
    (hn : n ∈ references componentPrefix (.obj (completed record entries))) :
    n ∈ references componentPrefix (.obj entries) ∨
      (record.sample ≠ .null ∧ exampleOf (.obj entries) = none ∧
        n ∈ references componentPrefix record.sample) := by
  rcases mem_references_complete (by decide) hn with hdescribed | ⟨w, hw, hget, hnw⟩
  · rcases mem_references_complete (by decide) hdescribed with hold | ⟨w, hw, _, hnw⟩
    · exact .inl hold
    · -- a description is a text and refers to nothing
      obtain ⟨s, _, rfl⟩ := Option.map_eq_some_iff.1 hw
      simp [references] at hnw
  · split at hw
    · simp at hw
    · rename_i hnull
      obtain rfl := Option.some.inj hw
      rw [get?_complete_of_ne _ _ (by decide)] at hget
      exact .inr ⟨hnull, hget, hnw⟩

/-- A record gives its example to an object that has none. -/
theorem takesExample_iff {r : Registry} {record : SchemaRecord} {entries : Fragment}
    (h : r.get? record.name = some (.obj entries)) :
    r.takesExample record = true ↔ record.sample ≠ .null ∧ exampleOf (.obj entries) = none := by
  simp [takesExample, h]

/-- Invert the laying of one stored record: it is a schema of its own, or completes one. -/
theorem addExternal_inv {r r' : Registry} {record : SchemaRecord}
    (h : r.addExternal record = .ok r') :
    (r.get? record.name = none ∧ r' = r.add record.name (.obj record.toFragment)) ∨
      ∃ schema after, r.get? record.name = some schema ∧ completeBy record schema = .ok after ∧
        r' = { r with schemas := Table.insert r.schemas record.name after } := by
  unfold addExternal at h
  cases hget : r.get? record.name with
  | none =>
      rw [hget] at h
      exact .inl ⟨rfl, (Except.ok.inj h).symm⟩
  | some schema =>
      rw [hget] at h
      dsimp only at h
      cases hcomplete : completeBy record schema with
      | error fault => simp [hcomplete, Except.map] at h
      | ok after =>
          rw [hcomplete] at h
          exact .inr ⟨schema, after, rfl, hcomplete, (Except.ok.inj h).symm⟩

/-- Invert the laying of stored records: the first one succeeds, and then the others. -/
theorem addExternals_cons_inv {r r' : Registry} {record : SchemaRecord} {rest : List SchemaRecord}
    (h : r.addExternals (record :: rest) = (r', none)) :
    ∃ next, r.addExternal record = .ok next ∧ next.addExternals rest = (r', none) := by
  rw [addExternals] at h
  cases hadd : r.addExternal record with
  | error fault => simp [hadd] at h
  | ok next =>
      rw [hadd] at h
      exact ⟨next, rfl, h⟩

/-- Invert the completion: stored records come first, and placeholders last. -/
theorem build_inv {r r' : Registry} (h : r.build = (r', none)) :
    ∃ next, r.addExternals r.external = (next, none) ∧ r' = next.addPlaceholders := by
  unfold build at h
  cases hadd : r.addExternals r.external with
  | mk next fault =>
      rw [hadd] at h
      cases fault with
      | some fault => simp at h
      | none => exact ⟨next, rfl, (Prod.mk.inj h).1.symm⟩

/-- The first record is backfilled if it gives its example, and the others by what it leaves. -/
theorem mem_backfilled_cons {r next : Registry} {record other : SchemaRecord}
    {rest : List SchemaRecord} (h : r.addExternal record = .ok next) :
    other ∈ r.backfilled (record :: rest) ↔
      (r.takesExample record = true ∧ other = record) ∨ other ∈ next.backfilled rest := by
  rw [backfilled, h]
  cases htakes : r.takesExample record <;> simp

/-- A stored record writes the schema of its name, and no other. -/
theorem schemas_addExternal {r r' : Registry} {record : SchemaRecord}
    (h : r.addExternal record = .ok r') :
    ∃ v, r'.schemas = Table.insert r.schemas record.name v := by
  obtain ⟨_, rfl⟩ | ⟨_, after, _, _, rfl⟩ := addExternal_inv h
  · exact ⟨_, rfl⟩
  · exact ⟨after, rfl⟩

/-- A stored record completes an object of its name. -/
theorem get?_addExternal_of_obj {r r' : Registry} {record : SchemaRecord} {entries : Fragment}
    (hget : r.get? record.name = some (.obj entries)) (h : r.addExternal record = .ok r') :
    Table.get? r'.schemas record.name = some (.obj (completed record entries)) := by
  rw [addExternal, hget] at h
  dsimp only at h
  rw [completeBy_obj] at h
  obtain rfl := Except.ok.inj h
  exact Table.get?_insert_self ..

theorem has_addExternal {r r' : Registry} {record : SchemaRecord} {n : String}
    (h : r.addExternal record = .ok r') :
    r'.has n = true ↔ n = record.name ∨ r.has n = true := by
  obtain ⟨v, hschemas⟩ := schemas_addExternal h
  rw [has, has, hschemas, Table.has_iff_mem_keys, Table.has_iff_mem_keys, Table.mem_keys_insert]

/-- A schema of a registry is what the registry gives for its name. -/
theorem get?_of_obj {r : Registry} {name : String} {entries : Fragment}
    (h : Table.get? r.schemas name = some (.obj entries)) : r.get? name = some (.obj entries) := by
  rw [Registry.get?, h]
  rfl

/-- A stored record that completes an object keeps the registry sound. -/
theorem Sound.insert_completed {r : Registry} {record : SchemaRecord} {entries : Fragment}
    (hs : r.Sound filled) (hfilled : r.takesExample record = true → record ∈ filled)
    (hget : r.get? record.name = some (.obj entries)) :
    Sound filled { r with
      schemas := Table.insert r.schemas record.name (.obj (completed record entries)) } := by
  refine ⟨hs.base, Table.nodup_keys_insert _ _ hs.nodup, objects_insert hs.objects _ _, ?_⟩
  intro name v hv n hn
  rw [Table.get?_insert] at hv
  split at hv
  · rename_i heq
    subst heq
    obtain rfl := Option.some.inj hv
    have hschema : Table.get? r.schemas record.name = some (.obj entries) :=
      (Option.filter_eq_some_iff.1 hget).1
    rcases mem_references_completed hn with hold | ⟨hnull, hnone, hsample⟩
    · rcases hs.tracked _ _ hschema n hold with hdep | ⟨other, ho, hname, hex, hin⟩
      · exact .inl hdep
      · exact .inr ⟨other, ho, hname, exampleOf_completed hex, hin⟩
    · have hrecord := hfilled ((takesExample_iff hget).2 ⟨hnull, hnone⟩)
      exact .inr ⟨record, hrecord, rfl, exampleOf_completed_of_none hnull hnone, hsample⟩
  · exact hs.tracked name v hv n hn

/-- One stored record. -/
theorem grows_addExternal {r r' : Registry} {record : SchemaRecord}
    (hfilled : r.takesExample record = true → record ∈ filled)
    (h : r.addExternal record = .ok r') : Grows filled r r' := by
  have hnames : ∀ n, r.has n = true → r'.has n = true := fun n hn => (has_addExternal h).2 (.inr hn)
  obtain ⟨_, rfl⟩ | ⟨schema, after, hget, hcomplete, rfl⟩ := addExternal_inv h
  · exact grows_add _ _ _
  · -- the dependencies of the component stay as they were
    refine ⟨fun hs => ?_, rfl, fun _ hn => hn, hnames⟩
    obtain ⟨entries, rfl⟩ := hs.objects _ _ (Option.filter_eq_some_iff.1 hget).1
    rw [completeBy_obj, Except.ok.injEq] at hcomplete
    subst hcomplete
    exact hs.insert_completed hfilled hget

/-- All stored records. -/
theorem grows_addExternals {r r' : Registry} {records : List SchemaRecord}
    (hfilled : ∀ record ∈ r.backfilled records, record ∈ filled)
    (h : r.addExternals records = (r', none)) : Grows filled r r' := by
  induction records generalizing r with
  | nil =>
      obtain ⟨rfl, _⟩ := Prod.mk.inj h
      exact Grows.refl _
  | cons record rest ih =>
      obtain ⟨next, hadd, hrest⟩ := addExternals_cons_inv h
      have hstep : Grows filled r next := grows_addExternal
        (fun htakes => hfilled _ ((mem_backfilled_cons hadd).2 (.inl ⟨htakes, rfl⟩))) hadd
      exact hstep.trans
        (ih (fun other ho => hfilled _ ((mem_backfilled_cons hadd).2 (.inr ho))) hrest)

/-- Every stored record has a schema of its name, and no other name gets one. -/
theorem has_addExternals {r r' : Registry} {records : List SchemaRecord} {n : String}
    (h : r.addExternals records = (r', none)) :
    r'.has n = true ↔ r.has n = true ∨ ∃ record ∈ records, record.name = n := by
  induction records generalizing r with
  | nil =>
      obtain ⟨rfl, _⟩ := Prod.mk.inj h
      simp
  | cons record rest ih =>
      obtain ⟨next, hadd, hrest⟩ := addExternals_cons_inv h
      simp only [ih hrest, has_addExternal hadd, List.mem_cons, or_and_right, exists_or,
        exists_eq_left]
      rw [eq_comm, or_assoc, or_left_comm]

/-- Stored records can always be laid below schemas that are objects. -/
theorem Sound.addExternal_ok {r : Registry} (h : r.Sound filled) (record : SchemaRecord) :
    ∃ r', r.addExternal record = .ok r' := by
  unfold addExternal
  cases hget : r.get? record.name with
  | none => exact ⟨_, rfl⟩
  | some schema =>
      obtain ⟨entries, rfl⟩ := h.objects _ _ (Option.filter_eq_some_iff.1 hget).1
      dsimp only
      rw [completeBy_obj]
      exact ⟨_, rfl⟩

theorem Sound.addExternals_ok {r : Registry} {records : List SchemaRecord}
    (h : r.Sound filled) (hrecords : ∀ record ∈ records, record ∈ filled) :
    ∃ r', r.addExternals records = (r', none) := by
  induction records generalizing r with
  | nil => exact ⟨r, rfl⟩
  | cons record rest ih =>
      obtain ⟨next, hnext⟩ := h.addExternal_ok record
      have hgrows : Grows filled r next :=
        grows_addExternal (fun _ => hrecords record List.mem_cons_self) hnext
      rw [addExternals, hnext]
      exact ih (hgrows.sound h) fun other ho => hrecords other (List.mem_cons_of_mem _ ho)

/-! ### Placeholders -/

theorem references_placeholder (base name : String) : references base (placeholder name) = [] := by
  simp [placeholder, references, entryReferences, ownReference, Table.get?]

/-- A placeholder wants nothing. -/
theorem mem_wanted_add_placeholder {r : Registry} {name n : String}
    (h : n ∈ (r.add name (placeholder name)).wanted) : n ∈ r.wanted := by
  rw [wanted, add, references_placeholder, List.mem_append] at h
  rcases h with href | hdep
  · exact List.mem_append_left _ href
  · -- the dependencies of the new entry are none
    obtain ⟨names, hnames, hn⟩ := List.mem_flatten.1 hdep
    obtain ⟨e, he, rfl⟩ := List.mem_map.1 hnames
    rcases Table.mem_insert he with rfl | hold
    · simp at hn
    · exact List.mem_append_right _ (List.mem_flatten.2 ⟨e.2, List.mem_map_of_mem hold, hn⟩)

theorem addPlaceholders_run (names : List String) (r : Registry) :
    let after := names.foldl (fun r name => r.add name (placeholder name)) r
    (∀ n, after.has n = true ↔ r.has n = true ∨ n ∈ names) ∧
      (∀ n ∈ after.wanted, n ∈ r.wanted) := by
  induction names generalizing r with
  | nil => exact ⟨fun n => by simp, fun n hn => hn⟩
  | cons name names ih =>
      obtain ⟨ihhas, ihwanted⟩ := ih (r.add name (placeholder name))
      refine ⟨fun n => ?_, fun n hn => mem_wanted_add_placeholder (ihwanted n hn)⟩
      rw [List.foldl_cons, ihhas, has_add, List.mem_cons, or_comm (a := n = name), or_assoc]

/-- **Nothing that is wanted is missing** once the placeholders are there. -/
theorem has_addPlaceholders {r : Registry} {n : String} (h : n ∈ r.addPlaceholders.wanted) :
    r.addPlaceholders.has n = true := by
  obtain ⟨hhas, hwanted⟩ := addPlaceholders_run r.unresolved r
  refine (hhas n).2 ?_
  cases hn : r.has n with
  | true => exact .inl rfl
  | false => exact .inr (mem_unresolved.2 ⟨hwanted n h, hn⟩)

theorem get?_placeholders (names : List String) (r : Registry) (n : String) :
    Table.get? (names.foldl (fun r name => r.add name (placeholder name)) r).schemas n =
      if n ∈ names then some (placeholder n) else Table.get? r.schemas n := by
  induction names generalizing r with
  | nil => rfl
  | cons name rest ih =>
      rw [List.foldl_cons, ih, Registry.add, Table.get?_insert]
      by_cases hrest : n ∈ rest
      · rw [if_pos hrest, if_pos (List.mem_cons_of_mem _ hrest)]
      · rw [if_neg hrest]
        by_cases hn : name = n
        · rw [if_pos hn, if_pos (by simp [hn]), hn]
        · rw [if_neg hn, if_neg (by simp [hrest, Ne.symm hn])]

theorem get?_addPlaceholders (r : Registry) (n : String) :
    Table.get? r.addPlaceholders.schemas n =
      if n ∈ r.unresolved then some (placeholder n) else Table.get? r.schemas n :=
  get?_placeholders r.unresolved r n

theorem grows_addPlaceholders (r : Registry) : Grows filled r r.addPlaceholders :=
  Grows.foldl (fun r name => grows_add r name _) _ r

/-! ### The completed registry -/

/-- Completing a registry that succeeds keeps it sound and leaves nothing wanted that is missing. -/
theorem build_spec {r r' : Registry} (h : r.build = (r', none)) :
    Grows (r.backfilled r.external) r r' ∧ ∀ n ∈ r'.wanted, r'.has n = true := by
  obtain ⟨next, hadd, rfl⟩ := build_inv h
  exact ⟨(grows_addExternals (fun _ hr => hr) hadd).trans (grows_addPlaceholders next),
    fun n hn => has_addPlaceholders hn⟩

/-- The schemas of a completed registry are those from before, those of stored records, and
placeholders. -/
theorem build_names {r r' : Registry} (h : r.build = (r', none)) :
    (∀ record ∈ r.external, r'.has record.name = true) ∧
      ∀ n, r'.has n = true → r.has n = true ∨ (∃ record ∈ r.external, record.name = n) ∨
        Table.get? r'.schemas n = some (placeholder n) := by
  obtain ⟨next, hadd, rfl⟩ := build_inv h
  have hplaceholders := (addPlaceholders_run next.unresolved next).1
  refine ⟨fun record hrecord => ?_, fun n hn => ?_⟩
  · have hnext : next.has record.name = true :=
      (has_addExternals hadd).2 (.inr ⟨record, hrecord, rfl⟩)
    exact (hplaceholders _).2 (.inl hnext)
  · rcases (hplaceholders n).1 hn with hold | hmissing
    · exact (has_addExternals hadd).1 hold |>.imp_right .inl
    · refine .inr (.inr ?_)
      rw [get?_addPlaceholders, if_pos hmissing]

theorem Sound.build_ok {r : Registry} (h : r.Sound r.external) : ∃ r', r.build = (r', none) := by
  obtain ⟨next, hnext⟩ := h.addExternals_ok fun _ hrecord => hrecord
  unfold build
  rw [hnext]
  exact ⟨_, rfl⟩

/-- In a completed registry, what a schema refers to is there, or came with an example. -/
theorem has_of_mem_references {r : Registry} (hs : r.Sound filled)
    (hall : ∀ n ∈ r.wanted, r.has n = true) {name n : String} {v : Value}
    (hv : Table.get? r.schemas name = some v) (hn : n ∈ references componentPrefix v) :
    r.has n = true ∨ IsBackfilled filled name v n := by
  rcases hs.tracked name v hv n hn with hdep | hfilled
  · exact .inl (hall n (mem_wanted_of_mem_dependenciesOf hdep))
  · exact .inr hfilled

/-! ### Examples that were taken -/

/-- The schema of a name has an example. -/
def HasExample (r : Registry) (name : String) (sample : Value) : Prop :=
  ∃ v, Table.get? r.schemas name = some v ∧ exampleOf v = some sample

section

variable {r r' : Registry} {record : SchemaRecord} {name : String} {sample : Value}

theorem HasExample.addExternal (hname : r.HasExample name sample)
    (h : r.addExternal record = .ok r') : r'.HasExample name sample := by
  obtain ⟨v, hv, hsample⟩ := hname
  obtain ⟨entries, rfl⟩ : ∃ entries, v = .obj entries := by
    cases v with
    | obj entries => exact ⟨entries, rfl⟩
    | _ => simp [exampleOf, Value.entries?] at hsample
  by_cases heq : record.name = name
  · subst heq
    exact ⟨_, get?_addExternal_of_obj (get?_of_obj hv) h, exampleOf_completed hsample⟩
  · obtain ⟨w, hschemas⟩ := schemas_addExternal h
    exact ⟨_, by rw [hschemas, Table.get?_insert_of_ne _ _ heq, hv], hsample⟩

theorem HasExample.addExternals {records : List SchemaRecord} (hname : r.HasExample name sample)
    (h : r.addExternals records = (r', none)) : r'.HasExample name sample := by
  induction records generalizing r with
  | nil =>
      obtain ⟨rfl, _⟩ := Prod.mk.inj h
      exact hname
  | cons record rest ih =>
      obtain ⟨next, hadd, hrest⟩ := addExternals_cons_inv h
      exact ih (hname.addExternal hadd) hrest

/-- An example that a schema takes stands there. -/
theorem Sound.hasExample_of_takesExample (hs : r.Sound filled)
    (htakes : r.takesExample record = true) (h : r.addExternal record = .ok r') :
    r'.HasExample record.name record.sample := by
  cases hget : r.get? record.name with
  | none => simp [takesExample, hget] at htakes
  | some schema =>
      obtain ⟨entries, rfl⟩ := hs.objects _ _ (Option.filter_eq_some_iff.1 hget).1
      obtain ⟨hnull, hnone⟩ := (takesExample_iff hget).1 htakes
      exact ⟨_, get?_addExternal_of_obj hget h, exampleOf_completed_of_none hnull hnone⟩

/-- The examples of the backfilled records stand in the schemas of their names. -/
theorem Sound.hasExample_addExternals {records : List SchemaRecord} (hs : r.Sound filled)
    (hfilled : ∀ record ∈ r.backfilled records, record ∈ filled)
    (hrecord : record ∈ r.backfilled records) (h : r.addExternals records = (r', none)) :
    r'.HasExample record.name record.sample := by
  induction records generalizing r with
  | nil => simp [backfilled] at hrecord
  | cons first rest ih =>
      obtain ⟨next, hadd, hrest⟩ := addExternals_cons_inv h
      rcases (mem_backfilled_cons hadd).1 hrecord with ⟨htakes, rfl⟩ | hlater
      · exact (hs.hasExample_of_takesExample htakes hadd).addExternals hrest
      · have hstep : Grows filled r next := grows_addExternal
          (fun htakes => hfilled _ ((mem_backfilled_cons hadd).2 (.inl ⟨htakes, rfl⟩))) hadd
        exact ih (hstep.sound hs)
          (fun other ho => hfilled _ ((mem_backfilled_cons hadd).2 (.inr ho))) hlater hrest

/-- The examples of the backfilled records stand in the completed registry. -/
theorem Sound.hasExample_build (hs : r.Sound (r.backfilled r.external))
    (hrecord : record ∈ r.backfilled r.external) (h : r.build = (r', none)) :
    r'.HasExample record.name record.sample := by
  obtain ⟨next, hadd, rfl⟩ := build_inv h
  obtain ⟨v, hv, hsample⟩ := hs.hasExample_addExternals (fun _ hr => hr) hrecord hadd
  -- placeholders only come where no schema is
  have hnot : record.name ∉ next.unresolved := fun hmissing => by
    have hhas := (mem_unresolved.1 hmissing).2
    simp [has, Table.has, hv] at hhas
  exact ⟨v, by rw [get?_addPlaceholders, if_neg hnot, hv], hsample⟩

end

end Registry

end RouteDoc
