import RouteDoc.Rule.Transform
import RouteDoc.Schema.Merge
/-!
# RouteDoc.Rule.Placement

**Where the schema of a field goes.** A field name is a path: its first segment names a property at
the top, a later `*` means the items of an array, and any other segment a property of an object.

* `place` walks such a path through the properties of an object and makes the objects and arrays
  that are missing.
* `placeItems` does so below an array.
* `placeLeaf` lays the schema over what is already at the end of the path; children that an
  earlier field put there stay.
-/

namespace RouteDoc.Rule

open RouteDoc.Schema

/-- The fragment at a key. -/
def fragmentAt? (node : Fragment) (key : String) : Option Fragment :=
  (Table.get? node key).bind Value.entries?

/-- Whether a fragment is of the given type. -/
def hasType (node : Fragment) (type : String) : Bool := Table.get? node "type" = some (.str type)

/-- Whether a value under a key is set. -/
def isSet (node : Fragment) (key : String) : Bool :=
  match Table.get? node key with
  | some v => v.isTruthy
  | none => false

/-- Make a node an object with properties; an array that becomes one loses its items. -/
def asObject (node : Fragment) : Fragment :=
  let node :=
    if hasType node "object" then node
    else Table.erase (Table.insert node "type" (.str "object")) "items"
  Table.insertIfNew node "properties" (.obj [])

/-- Lay the schema of a field over what is at its place. Items that are known stay when the schema
knows none, and a node with properties remains one that can have them. -/
def placeLeaf (existing : Option Fragment) (schema : Fragment) : Fragment :=
  match existing with
  | none => schema
  | some old =>
      let merged := merge old schema
      let merged := match Table.get? old "items" with
        | some items =>
            if Table.get? schema "items" = some (.obj defaultItems) then
              Table.insert merged "items" items
            else merged
        | none => merged
      let merged :=
        if isSet merged "properties" && !(hasType merged "object" || hasType merged "array") then
          Table.insert merged "type" (.str "object")
        else merged
      if hasType merged "array" && isSet merged "properties" then asObject merged else merged

/-- What an array starts as. -/
def emptyArray : Fragment := [("type", .str "array")]

/-- What an object starts as. -/
def emptyObject : Fragment := [("type", .str "object"), ("properties", .obj [])]

mutual

/-- Put a schema at the path of a head and further segments, below the given properties. -/
def placeAt (properties : Fragment) (head : String) (rest : List String) (schema : Fragment) :
    Fragment :=
  match rest with
  | [] =>
      Table.insert properties head (.obj (placeLeaf (fragmentAt? properties head) schema))
  | next :: rest =>
      if next = "*" then
        let node := (fragmentAt? properties head).getD emptyArray
        Table.insert properties head (.obj (placeItems node rest schema))
      else
        let node := asObject ((fragmentAt? properties head).getD emptyObject)
        let inner := (fragmentAt? node "properties").getD []
        Table.insert properties head
          (.obj (Table.insert node "properties" (.obj (placeAt inner next rest schema))))
termination_by structural rest

/-- Put a schema at a path below the items of an array. -/
def placeItems (node : Fragment) (segments : List String) (schema : Fragment) : Fragment :=
  let node := Table.erase (Table.insert node "type" (.str "array")) "properties"
  let items := fragmentAt? node "items"
  match segments with
  | [] =>
      let base := items.filter (· ≠ defaultItems)
      Table.insert node "items" (.obj (placeLeaf base schema))
  | next :: rest =>
      if next = "*" then
        let inner := (items.filter (hasType · "array")).getD emptyArray
        Table.insert node "items" (.obj (placeItems inner rest schema))
      else
        let inner := (items.filter (hasType · "object")).getD emptyObject
        let inner := Table.insertIfNew inner "properties" (.obj [])
        let properties := (fragmentAt? inner "properties").getD []
        Table.insert node "items"
          (.obj (Table.insert inner "properties" (.obj (placeAt properties next rest schema))))
termination_by structural segments

end

/-- Put a schema at a path below the given properties; an empty path is nowhere. -/
def place (properties : Fragment) (path : List String) (schema : Fragment) : Fragment :=
  match path with
  | [] => properties
  | head :: rest => placeAt properties head rest schema

end RouteDoc.Rule
