import RouteDoc.Text.Pieces
import RouteDoc.Value
/-!
# RouteDoc.Schema.References

**References between schemas.** An object with a text under `$ref` refers to the component whose
name follows the prefix. `references` lists the names that a value refers to at any depth; a text
under `$ref` is not looked into any further, whatever it is.
-/

namespace RouteDoc.Schema

/-- Where the schemas of a document stand. -/
def componentPrefix : String := "#/components/schemas/"

/-- A reference to a component. -/
def refTo (base name : String) : Fragment := [("$ref", .str (base ++ name))]

/-- The name that follows a prefix. -/
def nameUnder? (base s : String) : Option String :=
  if Text.startsWith s base then some (Text.drop base.toList.length s) else none

/-- The name that an object refers to itself. -/
def ownReference (base : String) (entries : Fragment) : List String :=
  match Table.get? entries "$ref" with
  | some (.str s) => (nameUnder? base s).toList
  | _ => []

mutual

/-- The names that a value refers to. -/
def references (base : String) : Value → List String
  | .obj entries => ownReference base entries ++ entryReferences base entries
  | .arr items => itemReferences base items
  | _ => []

/-- The names that the entries of an object refer to, `$ref` itself apart. -/
def entryReferences (base : String) : List (String × Value) → List String
  | [] => []
  | (key, v) :: rest =>
      (if key = "$ref" then [] else references base v) ++ entryReferences base rest

/-- The names that the items of a list refer to. -/
def itemReferences (base : String) : List Value → List String
  | [] => []
  | v :: rest => references base v ++ itemReferences base rest

end

/-- A list of names as a set: in order of code points, each name once. -/
def sortedNames (names : List String) : List String :=
  names.eraseDups.mergeSort fun a b => decide (a ≤ b)

theorem mem_sortedNames {names : List String} {name : String} :
    name ∈ sortedNames names ↔ name ∈ names := by
  simp [sortedNames, List.mem_mergeSort]

end RouteDoc.Schema
