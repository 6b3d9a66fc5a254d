import Mathlib.Data.List.Induction
import RouteDoc.Proofs.Schema.Completion
/-!
# RouteDoc.Proofs.Schema.Build

**What completing a registry makes of it.** A registry is used in any order (`Use`); an `Account` is
kept of what it was told: the latest schema added under each name, and the names that were handed out
or noted.

* `Accounts` is the invariant between both; `Accounts.use` is one use, `accounts_after` any number.
* `Accounts.addExternals` says what the stored records do to each schema (`laidBelow`), and
  `get?_addPlaceholders` what the placeholders do.
* `build_exact` describes the completed registry, which needs no second completion.

A placeholder refers to nothing, so the account leaves placeholders out.
-/

namespace RouteDoc

open Schema

namespace Registry

/-! ### Uses and accounts -/

/-- A use of a registry by which it changes; reading it is not one. -/
inductive Use where
  /-- A schema is added under a name. -/
  | add (name : String) (entries : Fragment)
  /-- A reference to a name is handed out. -/
  | refer (name : String)
  /-- The references of a value are noted. -/
  | note (v : Value)
  /-- The registry is completed. -/
  | build

/-- The registry after a use. -/
def use (r : Registry) : Use → Registry
  | .add name entries => r.add name (.obj entries)
  | .refer name => (r.refer name).2
  | .note v => r.note v
  | .build => r.build.1

/-- What a registry was told. -/
structure Account where
  /-- The latest schema that was added under each name, by a use or from a stored record. -/
  latest : Table String Fragment := []
  /-- The names that were handed out or noted. -/
  told : List String := []

/-- A stored record counts as added where nothing was added before. -/
def addRecord (latest : Table String Fragment) (record : SchemaRecord) : Table String Fragment :=
  Table.insertIfNew latest record.name record.toFragment

/-- The account after a use. -/
def Account.use (base : String) (records : List SchemaRecord) (a : Account) : Use → Account
  | .add name entries => { a with latest := Table.insert a.latest name entries }
  | .refer name => { a with told := a.told ++ [name] }
  | .note v => { a with told := a.told ++ references base v }
  | .build => { a with latest := records.foldl addRecord a.latest }

/-- The registry after some uses. -/
def after (base : String) (records : List SchemaRecord) (uses : List Use) : Registry :=
  uses.foldl use { base, external := records }

/-- A name was handed out or noted, or is referred to in the latest schema of some name. -/
def Account.Refers (base : String) (a : Account) (n : String) : Prop :=
  n ∈ a.told ∨ ∃ name entries, Table.get? a.latest name = some entries ∧
    n ∈ references base (.obj entries)

/-- The stored records of a name. -/
def recordsOf (records : List SchemaRecord) (name : String) : List SchemaRecord :=
  records.filter fun record => record.name = name

theorem mem_recordsOf {records : List SchemaRecord} {name : String} {record : SchemaRecord} :
    record ∈ recordsOf records name ↔ record ∈ records ∧ record.name = name := by
  simp [recordsOf]

/-! ### The invariant -/

/-- A registry is what its account says. -/
structure Accounts (base : String) (records : List SchemaRecord) (r : Registry) (a : Account) :
    Prop where
  base_eq : r.base = base
  external : r.external = records
  nodup : (Table.keys r.schemas).Nodup
  objects : ∀ name v, Table.get? r.schemas name = some v → ∃ entries, v = .obj entries
  told : r.referenced = a.told
  nodup_dependencies : (Table.keys r.dependencies).Nodup
  /-- The dependencies of a name are the references in its latest schema. -/
  dependencies : ∀ name, r.dependenciesOf name =
    ((Table.get? a.latest name).map fun entries => references base (.obj entries)).getD []
  stored : ∀ name, Table.has a.latest name = true → r.has name = true
  /-- The placeholders, which do not count as added, are not for stored records. -/
  latest : ∀ record ∈ records, r.has record.name = true →
    Table.has a.latest record.name = true

section

variable {base : String} {records : List SchemaRecord} {r : Registry} {a : Account}

theorem accounts_start : Accounts base records { base, external := records } {} where
  base_eq := rfl
  external := rfl
  nodup := List.nodup_nil
  objects := by simp
  told := rfl
  nodup_dependencies := List.nodup_nil
  dependencies := fun _ => rfl
  stored := by simp [Table.has]
  latest := by simp [has, Table.has]

/-- The schemas of a registry are none or objects. -/
theorem Accounts.get?_cases (h : Accounts base records r a) (name : String) :
    Table.get? r.schemas name = none ∨
      ∃ entries, Table.get? r.schemas name = some (.obj entries) := by
  cases hget : Table.get? r.schemas name with
  | none => exact .inl rfl
  | some v =>
      obtain ⟨entries, rfl⟩ := h.objects name v hget
      exact .inr ⟨entries, rfl⟩

/-- Nothing was added under a name that is missing. -/
theorem Accounts.latest_eq_none (h : Accounts base records r a) {name : String}
    (hname : r.has name = false) : Table.get? a.latest name = none := by
  cases hlatest : Table.get? a.latest name with
  | none => rfl
  | some entries =>
      have hhas := h.stored name (by rw [Table.has, hlatest]; rfl)
      rw [hname] at hhas
      simp at hhas

theorem Accounts.mem_wanted (h : Accounts base records r a) {n : String} :
    n ∈ r.wanted ↔ a.Refers base n := by
  have hname : ∀ name, n ∈ r.dependenciesOf name ↔
      ∃ entries, Table.get? a.latest name = some entries ∧ n ∈ references base (.obj entries) := by
    intro name
    rw [h.dependencies]
    cases Table.get? a.latest name <;> simp
  unfold Account.Refers
  simp only [← hname]
  constructor
  · intro hn
    rcases List.mem_append.1 hn with href | hdep
    · exact .inl (h.told ▸ href)
    · obtain ⟨names, hnames, hn⟩ := List.mem_flatten.1 hdep
      obtain ⟨e, he, rfl⟩ := List.mem_map.1 hnames
      refine .inr ⟨e.1, ?_⟩
      rw [dependenciesOf, Table.get?_of_mem h.nodup_dependencies he, Option.getD_some]
      exact hn
  · rintro (href | ⟨name, hn⟩)
    · exact List.mem_append_left _ (h.told.symm ▸ href)
    · exact mem_wanted_of_mem_dependenciesOf hn

/-! ### Adding and noting -/

/-- An added schema is the latest of its name. -/
theorem Accounts.add (h : Accounts base records r a) (name : String) (entries : Fragment)
    {latest : Table String Fragment} (hget : ∀ k, Table.get? latest k =
      if name = k then some entries else Table.get? a.latest k) :
    Accounts base records (r.add name (.obj entries)) { a with latest } where
  base_eq := h.base_eq
  external := h.external
  nodup := Table.nodup_keys_insert _ _ h.nodup
  objects := objects_insert h.objects name entries
  told := h.told
  nodup_dependencies := Table.nodup_keys_insert _ _ h.nodup_dependencies
  dependencies := by
    intro other
    rw [hget]
    split
    · rename_i heq
      rw [← heq, dependenciesOf_add_self, h.base_eq]
      rfl
    · rename_i hne
      rw [dependenciesOf_add_of_ne _ _ hne, h.dependencies]
  stored := by
    intro other hother
    rw [Table.has, hget] at hother
    rw [has_add]
    split at hother
    · rename_i heq
      exact .inl heq.symm
    · exact .inr (h.stored other hother)
  latest := by
    intro record hrecord hhas
    rw [Table.has, hget]
    split
    · rfl
    · rename_i hne
      exact h.latest record hrecord (((has_add ..).1 hhas).resolve_left (Ne.symm hne))

theorem Accounts.noteNames (h : Accounts base records r a) (names : List String) :
    Accounts base records (r.noteNames names) { a with told := a.told ++ names } where
  base_eq := h.base_eq
  external := h.external
  nodup := h.nodup
  objects := h.objects
  told := congrArg (· ++ names) h.told
  nodup_dependencies := h.nodup_dependencies
  dependencies := h.dependencies
  stored := h.stored
  latest := h.latest

/-! ### Stored records -/

/-- What a record makes of the schema of its name. -/
def laid (v : Option Value) (record : SchemaRecord) : Option Value :=
  match v with
  | some (.obj entries) => some (.obj (completed record entries))
  | _ => some (.obj record.toFragment)

/-- What the records of a name make of its schema. -/
def laidBelow (records : List SchemaRecord) (v : Option Value) : Option Value :=
  records.foldl laid v

theorem laidBelow_some (records : List SchemaRecord) (entries : Fragment) :
    laidBelow records (some (.obj entries)) = some (.obj (completeAll records entries)) := by
  induction records generalizing entries with
  | nil => rfl
  | cons record rest ih => exact ih (completed record entries)

theorem laidBelow_none (record : SchemaRecord) (later : List SchemaRecord) :
    laidBelow (record :: later) none = some (.obj (completeAll later record.toFragment)) :=
  laidBelow_some later record.toFragment

/-- The registry with a schema replaced by an object that refers to the same names as before. -/
theorem Accounts.replace (h : Accounts base records r a) {name : String} {entries : Fragment}
    (hname : r.has name = true) :
    Accounts base records { r with schemas := Table.insert r.schemas name (.obj entries) } a where
  base_eq := h.base_eq
  external := h.external
  nodup := Table.nodup_keys_insert _ _ h.nodup
  objects := objects_insert h.objects name entries
  told := h.told
  nodup_dependencies := h.nodup_dependencies
  dependencies := h.dependencies
  stored := by
    intro other hother
    exact (has_add r name other (.obj entries)).2 (.inr (h.stored other hother))
  latest := by
    intro record hrecord hhas
    rcases (has_add r name record.name (.obj entries)).1 hhas with heq | hold
    · exact h.latest record hrecord (heq ▸ hname)
    · exact h.latest record hrecord hold

theorem laidBelow_eq_none_iff {records : List SchemaRecord} {v : Option Value} :
    laidBelow records v = none ↔ records = [] ∧ v = none := by
  cases records using List.reverseRecOn with
  | nil => simp [laidBelow]
  | append_singleton records record =>
      have hsome : ∀ w, laid w record ≠ none := by
        intro w
        unfold laid
        split <;> simp
      simp [laidBelow, hsome]

/-- One record: its name has a schema then, and no other schema changes. -/
theorem Accounts.addExternal (h : Accounts base records r a) {record : SchemaRecord}
    (hrecord : record ∈ records) :
    ∃ r', r.addExternal record = .ok r' ∧
      Accounts base records r' { a with latest := addRecord a.latest record } ∧
      ∀ n, Table.get? r'.schemas n =
        if record.name = n then laid (Table.get? r.schemas n) record
        else Table.get? r.schemas n := by
  unfold Registry.addExternal addRecord
  rcases h.get?_cases record.name with hnone | ⟨entries, hsome⟩
  · -- the schema of the record is added
    have hget : r.get? record.name = none := by rw [Registry.get?, hnone, Option.filter_none]
    have hnew := h.latest_eq_none (by rw [has, Table.has, hnone]; rfl : r.has record.name = false)
    rw [hget]
    refine ⟨_, rfl, h.add _ _ fun k => ?_, fun n => ?_⟩
    · rw [Table.get?_insertIfNew, hnew, Option.getD_none]
    · rw [Registry.add, Table.get?_insert]
      split
      · rename_i heq
        rw [← heq, hnone]
        rfl
      · rfl
  · -- the schema that is there is completed, and its references stay what they were
    have hhas : r.has record.name = true := by rw [has, Table.has, hsome, Option.isSome_some]
    rw [get?_of_obj hsome, Table.insertIfNew, if_pos (h.latest record hrecord hhas)]
    dsimp only
    rw [completeBy_obj]
    refine ⟨_, rfl, h.replace hhas, fun n => ?_⟩
    rw [Table.get?_insert]
    split
    · rename_i heq
      rw [← heq, hsome]
      rfl
    · rfl

/-- All records: each schema is laid over the records of its name. -/
theorem Accounts.addExternals {rest : List SchemaRecord} (hrest : ∀ record ∈ rest, record ∈ records)
    (h : Accounts base records r a) :
    ∃ r', r.addExternals rest = (r', none) ∧
      Accounts base records r' { a with latest := rest.foldl addRecord a.latest } ∧
      ∀ n, Table.get? r'.schemas n = laidBelow (recordsOf rest n) (Table.get? r.schemas n) := by
  induction rest generalizing r a with
  | nil => exact ⟨r, rfl, h, fun n => rfl⟩
  | cons record rest ih =>
      obtain ⟨next, hadd, hnext, hschemas⟩ := h.addExternal (hrest record List.mem_cons_self)
      obtain ⟨r', hadds, hr', hall⟩ :=
        ih (fun other hother => hrest other (List.mem_cons_of_mem _ hother)) hnext
      refine ⟨r', ?_, hr', fun n => ?_⟩
      · rw [Registry.addExternals, hadd]
        exact hadds
      · rw [hall, hschemas, recordsOf, recordsOf, List.filter_cons]
        by_cases hn : record.name = n
        · rw [if_pos hn, if_pos (decide_eq_true hn)]
          rfl
        · rw [if_neg hn, if_neg (by simpa using hn)]

/-! ### Placeholders -/

/-- A placeholder for a name that nobody added changes nothing in the account. -/
theorem Accounts.addPlaceholder (h : Accounts base records r a) {name : String}
    (hlatest : Table.get? a.latest name = none) (hrecords : ∀ record ∈ records, record.name ≠ name) :
    Accounts base records (r.add name (placeholder name)) a where
  base_eq := h.base_eq
  external := h.external
  nodup := Table.nodup_keys_insert _ _ h.nodup
  objects := objects_insert h.objects name _
  told := h.told
  nodup_dependencies := Table.nodup_keys_insert _ _ h.nodup_dependencies
  dependencies := by
    intro other
    by_cases hother : name = other
    · rw [← hother, dependenciesOf_add_self, references_placeholder, hlatest]
      rfl
    · rw [dependenciesOf_add_of_ne _ _ hother, h.dependencies]
  stored := fun other hother => (has_add ..).2 (.inr (h.stored other hother))
  latest := by
    intro record hrecord hhas
    exact h.latest record hrecord (((has_add ..).1 hhas).resolve_left (hrecords record hrecord))

theorem Accounts.addPlaceholders_of {names : List String}
    (hnames : ∀ name ∈ names, Table.get? a.latest name = none ∧
      ∀ record ∈ records, record.name ≠ name) (h : Accounts base records r a) :
    Accounts base records (names.foldl (fun r name => r.add name (placeholder name)) r) a := by
  induction names generalizing r with
  | nil => exact h
  | cons name rest ih =>
      obtain ⟨hlatest, hrecords⟩ := hnames name List.mem_cons_self
      exact ih (fun other hother => hnames other (List.mem_cons_of_mem _ hother))
        (h.addPlaceholder hlatest hrecords)

theorem Accounts.addPlaceholders (h : Accounts base records r a)
    (hrecords : ∀ record ∈ records, r.has record.name = true) :
    Accounts base records r.addPlaceholders a := by
  refine Accounts.addPlaceholders_of (fun name hname => ?_) h
  have hmissing := (mem_unresolved.1 hname).2
  refine ⟨?_, fun record hrecord heq => ?_⟩
  · exact h.latest_eq_none hmissing
  · have hhas := hrecords record hrecord
    rw [heq, hmissing] at hhas
    simp at hhas

/-! ### Completing -/

/-- A registry holds what the stored records make of the schemas of another one, and behind them
placeholders. -/
def Completes (records : List SchemaRecord) (r r' : Registry) : Prop :=
  ∀ n, Table.get? r'.schemas n = (laidBelow (recordsOf records n) (Table.get? r.schemas n)).or
    (if n ∈ r'.wanted then some (placeholder n) else none)

/-- Completing succeeds: the stored records are laid below the schemas, and behind them what is
referred to has placeholders. -/
theorem Accounts.build (h : Accounts base records r a) :
    ∃ r', r.build = (r', none) ∧ Accounts base records r' (a.use base records .build) ∧
      Completes records r r' := by
  obtain ⟨next, hadds, hnext, hschemas⟩ := h.addExternals fun _ hrecord => hrecord
  have hrecords : ∀ record ∈ records, next.has record.name = true := by
    intro record hrecord
    have hmem : record ∈ recordsOf records record.name := mem_recordsOf.2 ⟨hrecord, rfl⟩
    rw [has, Table.has, hschemas, Option.isSome_iff_ne_none, Ne, laidBelow_eq_none_iff]
    exact fun hnone => List.ne_nil_of_mem hmem hnone.1
  have hr' := hnext.addPlaceholders hrecords
  refine ⟨next.addPlaceholders, ?_, hr', fun n => ?_⟩
  · unfold Registry.build
    rw [h.external, hadds]
  · -- wanted means the same before and after the placeholders
    have hmissing : n ∈ next.unresolved ↔
        n ∈ next.addPlaceholders.wanted ∧ next.has n = false := by
      rw [mem_unresolved, hnext.mem_wanted, hr'.mem_wanted]
    rw [get?_addPlaceholders, ← hschemas]
    cases hget : Table.get? next.schemas n with
    | some v =>
        have hhas : next.has n = true := by rw [has, Table.has, hget, Option.isSome_some]
        rw [if_neg (by rw [hmissing, hhas]; simp), Option.some_or]
    | none =>
        have hhas : next.has n = false := by rw [has, Table.has, hget, Option.isSome_none]
        rw [Option.none_or]
        exact if_congr (hmissing.trans (and_iff_left hhas)) rfl rfl

/-- One use. -/
theorem Accounts.use (h : Accounts base records r a) (u : Use) :
    Accounts base records (r.use u) (a.use base records u) := by
  cases u with
  | add name entries => exact h.add name entries (Table.get?_insert a.latest name · entries)
  | refer name => exact h.noteNames [name]
  | note v =>
      have hnoted := h.noteNames (references base v)
      rw [← h.base_eq] at hnoted ⊢
      exact hnoted
  | build =>
      obtain ⟨r', hbuild, hr', _⟩ := h.build
      rw [Registry.use, hbuild]
      exact hr'

theorem Accounts.foldl (h : Accounts base records r a) (uses : List Use) :
    Accounts base records (uses.foldl Registry.use r) (uses.foldl (Account.use base records) a) := by
  induction uses generalizing r a with
  | nil => exact h
  | cons u rest ih => exact ih (h.use u)

end

section

variable {records : List SchemaRecord} {r r' : Registry} (h : Completes records r r')

include h

theorem Completes.get?_stored {n : String} {entries : Fragment}
    (hget : Table.get? r.schemas n = some (.obj entries)) :
    Table.get? r'.schemas n = some (.obj (completeAll (recordsOf records n) entries)) := by
  rw [h n, hget, laidBelow_some, Option.some_or]

theorem Completes.get?_external {n : String} {record : SchemaRecord} {later : List SchemaRecord}
    (hn : n ∉ Table.keys r.schemas) (hrecords : recordsOf records n = record :: later) :
    Table.get? r'.schemas n = some (.obj (completeAll later record.toFragment)) := by
  rw [h n, hrecords, Table.get?_eq_none_iff.2 hn, laidBelow_none, Option.some_or]

/-- No record has anything left to add to the schema of its name. -/
theorem Completes.completed (hobjects : ∀ n v, Table.get? r.schemas n = some v →
      ∃ entries, v = .obj entries) {record : SchemaRecord} (hrecord : record ∈ records) :
    ∃ entries, Table.get? r'.schemas record.name = some (.obj entries) ∧
      Registry.completed record entries = entries := by
  have hmem : record ∈ recordsOf records record.name := mem_recordsOf.2 ⟨hrecord, rfl⟩
  cases hget : Table.get? r.schemas record.name with
  | some v =>
      obtain ⟨entries, rfl⟩ := hobjects _ v hget
      exact ⟨_, h.get?_stored hget, completed_completeAll hmem entries⟩
  | none =>
      cases hrecords : recordsOf records record.name with
      | nil => exact absurd hrecords (List.ne_nil_of_mem hmem)
      | cons first later =>
          rw [hrecords] at hmem
          refine ⟨_, h.get?_external (Table.get?_eq_none_iff.1 hget) hrecords, ?_⟩
          -- the first record has completed its own schema
          have hfirst : completeAll later first.toFragment =
              completeAll (first :: later) first.toFragment := by
            rw [completeAll_cons, completed_toFragment]
          rw [hfirst]
          exact completed_completeAll hmem first.toFragment

end

end Registry

end RouteDoc
