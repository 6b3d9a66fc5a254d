import RouteDoc.Json.Reader
import RouteDoc.Json.Writer
import RouteDoc.Store.Rows
/-!
# RouteDoc.Store.File

**Stores in files.** A store is written as one JSON text with its records in the order of their rows; a
store that is read from it lists the same records.
-/

namespace RouteDoc.RowStore

/-- Rows that are numbered from one on. -/
def rowsOf {α : Type} (all : List α) : Rows α := all.foldl Rows.append {}

/-- The store as a value. -/
def toValue (s : RowStore) : Value :=
  .obj [("routes", .arr (s.routes.all.map OverrideRecord.toValue)),
    ("schemas", .arr (s.schemas.all.map SchemaRecord.toValue)),
    ("security_schemes", .arr (s.securitySchemes.all.map SecuritySchemeRecord.toValue))]

/-- Check a document against a store. -/
def check : Datum → Checked RowStore :=
  Check.record fun es =>
    (fun routes schemas schemes =>
      { routes := rowsOf routes, schemas := rowsOf schemas, securitySchemes := rowsOf schemes })
      <$> Check.defaulted es ["routes"] (Check.list OverrideRecord.check) []
      <*> Check.defaulted es ["schemas"] (Check.list SchemaRecord.check) []
      <*> Check.defaulted es ["security_schemes"] (Check.list SecuritySchemeRecord.check) []

/-- The bytes of a store. -/
def encode (s : RowStore) : ByteArray := (Json.compact s.toValue).toUTF8

/-- The store in some bytes; nothing when they are no store. -/
def decode? (content : ByteArray) : Option RowStore := do
  let text ← String.fromUTF8? content
  let value ← (Json.read text).toOption
  match check (.ofValue value) with
  | .valid s => some s
  | .invalid _ => none

end RouteDoc.RowStore
