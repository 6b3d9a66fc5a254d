import RouteDoc.Text.Pieces
import RouteDoc.Value
/-!
# RouteDoc.Shape.Names

**Schemas read off names.** A property or method whose value is not known is described by the
conventions for its name: `owner_id` is an identifier, `created_at` a time, `is_open` a truth value.
-/

namespace RouteDoc.Shape

open RouteDoc.Text

/-- A schema of a type. -/
def typeSchema (type : String) : Fragment := [("type", .str type)]

/-- The schema of a text in a format. -/
def formatSchema (format : String) : Fragment :=
  [("type", .str "string"), ("format", .str format)]

/-- The schema of an array of texts. -/
def textArray : Fragment := [("type", .str "array"), ("items", .obj (typeSchema "string"))]

/-- The schema that a property's name suggests. -/
def schemaOfProperty (name : String) : Fragment :=
  if endsWith name "_id" ∨ name = "id" then formatSchema "uuid"
  else if endsWith name "_at" then formatSchema "date-time"
  else if endsWith name "_date" then formatSchema "date"
  else if startsWith name "is_" ∨ startsWith name "has_" then typeSchema "boolean"
  else if name = "email" then formatSchema "email"
  else if name ∈ ["url", "website"] then formatSchema "uri"
  else if name ∈ ["ip", "ip_address"] then formatSchema "ipv4"
  else if name ∈ ["port", "count", "total", "quantity", "amount"] then typeSchema "integer"
  else if name ∈ ["price", "cost", "rate"] then typeSchema "number"
  else typeSchema "string"

/-- The schema that a method's name suggests. -/
def schemaOfMethod (name : String) : Fragment :=
  if startsWith name "get" then typeSchema "string"
  else if startsWith name "is" ∨ startsWith name "has" then typeSchema "boolean"
  else if name = "toArray" then textArray
  else if name = "toIso8601String" ∨ contains name "Date" then formatSchema "date-time"
  else if name = "count" then typeSchema "integer"
  else typeSchema "string"

end RouteDoc.Shape
