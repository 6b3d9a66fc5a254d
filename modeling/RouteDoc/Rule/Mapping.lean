import RouteDoc.Rule.Placement
/-!
# RouteDoc.Rule.Mapping

**From the rules of a request to its schema.** `Rule.objectSchema` maps every field by itself, puts
the result at the field's path and lists the required properties at the top, each once. Rules that
make no sense leave a plain string and a diagnostic; nothing stops the mapping.
-/

namespace RouteDoc.Rule

/-- The name of a field: mostly a text, but keys of other sorts occur. -/
inductive FieldName where
  /-- A text. -/
  | text (s : String)
  /-- A number. -/
  | int (n : Int)
  /-- A truth value, which is the same key as its number. -/
  | bool (b : Bool)
  /-- No name. -/
  | null
deriving DecidableEq, Inhabited

/-- The name as a value. -/
def FieldName.toValue : FieldName → Value
  | .text s => .str s
  | .int n => .int n
  | .bool b => .bool b
  | .null => .null

/-- The name as text. -/
def FieldName.path (f : FieldName) : String := f.toValue.text

/-- A name in the form in which two equal keys agree. -/
def FieldName.key : FieldName → FieldName
  | .bool b => .int (if b then 1 else 0)
  | f => f

/-- Field names with the rules of each. -/
abbrev RuleMap := List (FieldName × Expr)

/-- Write the rules of a field; a repeated field keeps its place. -/
def RuleMap.insert : RuleMap → FieldName → Expr → RuleMap
  | [], f, e => [(f, e)]
  | (g, old) :: rest, f, e =>
      if g.key = f.key then (g, e) :: rest else (g, old) :: insert rest f e

/-- The rule map that a list of entries writes. -/
def RuleMap.ofEntries (entries : List (FieldName × Expr)) : RuleMap :=
  entries.foldl (fun acc e => RuleMap.insert acc e.1 e.2) []

/-- The rules of a field with the schema they make. -/
structure FieldResult where
  /-- The rules, none when they could not be read. -/
  items : List Item
  /-- The schema of the field. -/
  schema : Fragment
  /-- What had to be left out. -/
  diagnostics : List Diagnostic

/-- Read and apply the rules of a field. -/
def mapField (f : FieldName) (e : Expr) : FieldResult :=
  match e.items with
  | .ok items =>
      let (schema, diagnostics) := applyItems items
      ⟨items, schema, diagnostics⟩
  | .error fault => ⟨[], plainField, [.fieldSkipped f.toValue.quoted fault]⟩

/-- A schema under construction. -/
structure Draft where
  /-- The properties at the top. -/
  properties : Fragment := []
  /-- The required ones among them. -/
  required : List String := []
  /-- What had to be left out so far. -/
  diagnostics : List Diagnostic := []

/-- Add a field to a schema. A name without segments has no place. -/
def Draft.addField (draft : Draft) (field : FieldName × Expr) : Draft :=
  let result := mapField field.1 field.2
  let path := segments field.1.path
  let name := topLevelName field.1.path
  let diagnostics := draft.diagnostics ++ result.diagnostics
  if path.isEmpty then { draft with diagnostics }
  else
    let required :=
      if name ≠ "" ∧ isRequired result.items = true ∧ name ∉ draft.required then
        draft.required ++ [name]
      else draft.required
    { properties := place draft.properties path result.schema, required, diagnostics }

/-- The schema of a finished draft. -/
def Draft.schema (draft : Draft) : Fragment :=
  let object : Fragment := [("type", .str "object"), ("properties", .obj draft.properties)]
  if draft.required.isEmpty then object
  else object ++ [("required", .ofStrings draft.required)]

/-- The schema of all fields, with the diagnostics. -/
def objectSchema (rules : RuleMap) : Fragment × List Diagnostic :=
  let draft := rules.foldl Draft.addField {}
  (draft.schema, draft.diagnostics)

end RouteDoc.Rule
