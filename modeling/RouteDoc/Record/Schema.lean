import RouteDoc.Check.Basic
/-!
# RouteDoc.Record.Schema

**Stored schemas.** A schema that was written by hand under a name, with a title, a description and
an example that complete it where it has none itself.
-/

namespace RouteDoc

/-- A stored schema. -/
structure SchemaRecord where
  /-- Its name among the components. -/
  name : String
  /-- The schema. -/
  schema : Fragment := [("type", .str "object")]
  /-- The class that it describes. -/
  sourceClass : Option String := none
  /-- A title for a schema without one. -/
  title : Option String := none
  /-- A description for a schema without one. -/
  description : Option String := none
  /-- An example for a schema without one. -/
  sample : Value := .null
  /-- Whether it was made by the program. -/
  isAutoGenerated : Bool := false
deriving DecidableEq, Inhabited

namespace SchemaRecord

/-- Write a value under a key that is free, when there is one. -/
def complete (schema : Fragment) (key : String) : Option Value → Fragment
  | some v => Table.insertIfNew schema key v
  | none => schema

/-- The schema as a component. -/
def toFragment (r : SchemaRecord) : Fragment :=
  let schema := complete r.schema "title" ((Text.filled? r.title).map .str)
  let schema := complete schema "description" ((Text.filled? r.description).map .str)
  complete schema "example" (if r.sample = .null then none else some r.sample)

/-- Check a document against the record. -/
def check : Datum → Checked SchemaRecord :=
  Check.record fun es =>
    SchemaRecord.mk
      <$> Check.required es ["name"] Check.text
      <*> Check.defaulted es ["schema", "schema_"] Check.fragment [("type", .str "object")]
      <*> Check.maybe es ["source_class"] Check.text
      <*> Check.maybe es ["title"] Check.text
      <*> Check.maybe es ["description"] Check.text
      <*> Check.defaulted es ["example"] Check.any .null
      <*> Check.defaulted es ["is_auto_generated"] Check.truth false

/-- The record as a value. -/
def toValue (r : SchemaRecord) : Value :=
  .obj [("name", .str r.name), ("schema", .obj r.schema),
    ("source_class", .ofOption r.sourceClass), ("title", .ofOption r.title),
    ("description", .ofOption r.description), ("example", r.sample),
    ("is_auto_generated", .bool r.isAutoGenerated)]

end SchemaRecord

end RouteDoc
