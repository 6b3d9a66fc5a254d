import RouteDoc.Fault
import RouteDoc.Record.Schema
import RouteDoc.Schema.References
/-!
# RouteDoc.Schema.Registry

**The components of one document.** A registry collects named schemas while operations are put
together, and keeps track of every name that was referred to.

* `add` stores a schema and notes the names inside it; a later schema of the same name replaces
  both.
* `refer` hands out a reference, `note` looks for references in what is kept elsewhere.
* `build` lays stored records below, completes the schemas that are there, and puts a placeholder
  under each name that is still missing, so that every reference leads somewhere.
* `mem_unresolved` says which names are missing, and `has_or_mem_unresolved_refer` that none is lost.

The schemas are values and not fragments, since anything may be registered; a value that cannot be
completed is a fault of `build`.
-/

namespace RouteDoc

open Schema

/-- The schemas of a document under construction. -/
structure Registry where
  /-- What stands before the name in a reference. -/
  base : String := componentPrefix
  /-- The schemas by name. -/
  schemas : Table String Value := []
  /-- The names that each schema refers to. -/
  dependencies : Table String (List String) := []
  /-- The names that were referred to elsewhere. -/
  referenced : List String := []
  /-- Stored schemas that belong to the document. -/
  external : List SchemaRecord := []
deriving Inhabited

namespace Registry

/-- Whether there is a schema of the name. -/
def has (r : Registry) (name : String) : Bool := Table.has r.schemas name

/-- The number of schemas. -/
def size (r : Registry) : Nat := r.schemas.length

/-- Store a schema under a name. -/
def add (r : Registry) (name : String) (schema : Value) : Registry :=
  { r with
    schemas := Table.insert r.schemas name schema
    dependencies := Table.insert r.dependencies name (references r.base schema) }

/-- The schema of a name; null counts as none. -/
def get? (r : Registry) (name : String) : Option Value :=
  (Table.get? r.schemas name).filter (· ≠ .null)

/-- Note that names are referred to. -/
def noteNames (r : Registry) (names : List String) : Registry :=
  { r with referenced := r.referenced ++ names }

/-- Hand out a reference. -/
def refer (r : Registry) (name : String) : Fragment × Registry :=
  (refTo r.base name, r.noteNames [name])

/-- Note the references inside a value that is kept elsewhere. -/
def note (r : Registry) (v : Value) : Registry := r.noteNames (references r.base v)

/-- The names that a schema refers to. -/
def dependenciesOf (r : Registry) (name : String) : List String :=
  (Table.get? r.dependencies name).getD []

/-- All names that are referred to. -/
def wanted (r : Registry) : List String := r.referenced ++ (Table.values r.dependencies).flatten

/-- The names that are referred to and have no schema, in order. -/
def unresolved (r : Registry) : List String :=
  sortedNames (r.wanted.filter fun name => !r.has name)

/-- What stands for a schema that nobody gave. -/
def placeholder (name : String) : Value :=
  .obj [("type", .str "object"),
    ("description", .str ("Auto-generated placeholder for " ++ name))]

/-- Write a value under a key that a schema does not have; fails where a value cannot be asked for
keys or cannot take one. -/
def completeKey (key : String) (v : Option Value) (schema : Value) : Except Fault Value :=
  match v with
  | none => .ok schema
  | some v => match schema with
      | .obj entries => .ok (.obj (Table.insertIfNew entries key v))
      | .str s => if Text.contains s key then .ok schema else .error (.notWritable .str)
      | .arr items => if .str key ∈ items then .ok schema else .error (.notWritable .arr)
      | other => .error (.notContainer other.kind)

/-- Complete a schema by the description and the example of a record. -/
def completeBy (record : SchemaRecord) (schema : Value) : Except Fault Value := do
  let schema ← completeKey "description" ((Text.filled? record.description).map .str) schema
  completeKey "example" (if record.sample = .null then none else some record.sample) schema

/-- Lay a stored record below the schemas. -/
def addExternal (r : Registry) (record : SchemaRecord) : Except Fault Registry :=
  match r.get? record.name with
  | none => .ok (r.add record.name (.obj record.toFragment))
  | some schema => (completeBy record schema).map fun schema =>
      { r with schemas := Table.insert r.schemas record.name schema }

/-- Lay stored records below the schemas until one fails. -/
def addExternals (r : Registry) : List SchemaRecord → Registry × Option Fault
  | [] => (r, none)
  | record :: rest => match r.addExternal record with
      | .ok r => r.addExternals rest
      | .error fault => (r, some fault)

/-- Put a placeholder under each name that is missing. -/
def addPlaceholders (r : Registry) : Registry :=
  r.unresolved.foldl (fun r name => r.add name (placeholder name)) r

/-- Complete the registry. Its schemas are then those of the document. -/
def build (r : Registry) : Registry × Option Fault :=
  match r.addExternals r.external with
  | (r, none) => (r.addPlaceholders, none)
  | (r, some fault) => (r, some fault)

/-! ### What the operations do to the names -/

theorem has_add (r : Registry) (name other : String) (schema : Value) :
    (r.add name schema).has other = true ↔ other = name ∨ r.has other = true := by
  simp only [has, add, Table.has_iff_mem_keys, Table.mem_keys_insert]

@[simp] theorem has_noteNames (r : Registry) (names : List String) (other : String) :
    (r.noteNames names).has other = r.has other := rfl

@[simp] theorem has_note (r : Registry) (v : Value) (other : String) :
    (r.note v).has other = r.has other := rfl

@[simp] theorem has_refer (r : Registry) (name other : String) :
    (r.refer name).2.has other = r.has other := rfl

theorem mem_unresolved {r : Registry} {name : String} :
    name ∈ r.unresolved ↔ name ∈ r.wanted ∧ r.has name = false := by
  simp [unresolved, mem_sortedNames]

/-- A reference that was handed out leads to a schema or is noted as unresolved. -/
theorem has_or_mem_unresolved_refer (r : Registry) (name : String) :
    (r.refer name).2.has name = true ∨ name ∈ (r.refer name).2.unresolved := by
  by_cases h : (r.refer name).2.has name = true
  · exact .inl h
  · exact .inr (mem_unresolved.2 ⟨by simp [refer, noteNames, wanted], by simpa using h⟩)

end Registry

end RouteDoc
