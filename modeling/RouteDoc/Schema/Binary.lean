import RouteDoc.Value
/-!
# RouteDoc.Schema.Binary

**Uploaded files in schemas.** A body that holds a field of format `binary` at any depth has to be
sent in parts.
-/

namespace RouteDoc.Schema

mutual

/-- Whether an object inside the value has the format `binary`. -/
def containsBinary : Value → Bool
  | .obj entries => Table.get? entries "format" = some (.str "binary") || anyEntry entries
  | .arr items => anyItem items
  | _ => false

/-- Whether one of the entries holds such an object. -/
def anyEntry : List (String × Value) → Bool
  | [] => false
  | (_, v) :: rest => containsBinary v || anyEntry rest

/-- Whether one of the items holds such an object. -/
def anyItem : List Value → Bool
  | [] => false
  | v :: rest => containsBinary v || anyItem rest

end

end RouteDoc.Schema
