import RouteDoc.Operation.Basic
/-!
# RouteDoc.Operation.Envelope

**What surrounds the data of a response.** A single item stands under `data` beside a message; a
list of items comes in pages, with links and counts, and its operation takes the number and the
size of a page.
-/

namespace RouteDoc.Envelope

/-- A schema of a type. -/
def typed (type : String) : Value := .obj [("type", .str type)]

/-- An integer that may be null. -/
def nullableInteger : Value := .obj [("type", .str "integer"), ("nullable", .bool true)]

/-- A link that may be null. -/
def nullableUri : Value :=
  .obj [("type", .str "string"), ("format", .str "uri"), ("nullable", .bool true)]

/-- An object with properties. -/
def object (properties : Fragment) : Fragment :=
  [("type", .str "object"), ("properties", .obj properties)]

/-- The envelope of one item. -/
def single (item : Fragment) : Fragment :=
  object [("data", .obj item), ("message", typed "string")]

/-- The links between pages. -/
def pageLinks : Fragment :=
  object [("first", nullableUri), ("last", nullableUri), ("prev", nullableUri),
    ("next", nullableUri)]

/-- The counts of pages. -/
def pageCounts : Fragment :=
  object [("current_page", typed "integer"), ("from", nullableInteger),
    ("last_page", typed "integer"), ("path", typed "string"), ("per_page", typed "integer"),
    ("to", nullableInteger), ("total", typed "integer")]

/-- The envelope of a page of items. -/
def paginated (item : Fragment) : Fragment :=
  object [("data", .obj [("type", .str "array"), ("items", .obj item)]),
    ("links", .obj pageLinks), ("meta", .obj pageCounts), ("message", typed "string")]

/-- The envelope of a response whose data is not known. -/
def unknown : Fragment := single [("type", .str "object")]

/-- The parameters that choose a page. -/
def pageParameters : List Parameter :=
  [ { name := "page", location := "query",
      schema := [("type", .str "integer"), ("minimum", .int 1), ("default", .int 1)],
      description := some "Page number" },
    { name := "per_page", location := "query",
      schema := [("type", .str "integer"), ("minimum", .int 1), ("maximum", .int 100),
        ("default", .int 15)],
      description := some "Items per page" } ]

end RouteDoc.Envelope
