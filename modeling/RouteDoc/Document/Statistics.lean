import RouteDoc.Fault
/-!
# RouteDoc.Document.Statistics

**How large a document is**: the numbers of its paths, operations, schemas, security schemes and
tags. Parts that are missing count as empty; parts of the wrong sort are faults.
-/

namespace RouteDoc.Document

/-- The size of a value: characters, items or entries. -/
def sizeOf : Value → Except Fault Nat
  | .str s => .ok s.toList.length
  | .arr items => .ok items.length
  | .obj entries => .ok entries.length
  | v => .error (.noSize v.kind)

/-- The entry of an object, or a default; other values have no entries. -/
def entryOr (default : Value) (key : String) : Value → Except Fault Value
  | .obj entries => .ok ((Table.get? entries key).getD default)
  | v => .error (.noOperation v.kind "get")

/-- The values of an object. -/
def valuesOf : Value → Except Fault (List Value)
  | .obj entries => .ok (Table.values entries)
  | v => .error (.noOperation v.kind "values")

/-- The sizes of the parts of a document. -/
def statistics (document : Value) : Except Fault (Table String Nat) := do
  let paths ← entryOr (.obj []) "paths" document
  let components ← entryOr (.obj []) "components" document
  let pathCount ← sizeOf paths
  let operations ← (← valuesOf paths).mapM sizeOf
  let schemas ← sizeOf (← entryOr (.obj []) "schemas" components)
  let schemes ← sizeOf (← entryOr (.obj []) "securitySchemes" components)
  let tags ← sizeOf (← entryOr (.arr []) "tags" document)
  return [("paths", pathCount), ("operations", operations.foldl (· + ·) 0), ("schemas", schemas),
    ("security_schemes", schemes), ("tags", tags)]

end RouteDoc.Document
