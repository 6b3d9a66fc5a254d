import RouteDoc.Json.Reader
import RouteDoc.Route.Filter
import RouteDoc.Route.Path
/-!
# RouteDoc.Route.Inventory

**Route inventories.** An inventory lists the routes of an application as free-form entries; each
gives one `Route` for every method that it names.

* `Inventory.routes` reads the entries: closures are skipped, filters are applied, and `HEAD` is
  left out of the methods.
* `Inventory.load` reads an inventory from the bytes of a file.
* What names are searched for is read by a `PatternEngine`, which every function on entries takes.
* `InventoryError` tells apart what is wrong with an inventory, with a value inside an entry, and
  with the records that an entry would make.
-/

namespace RouteDoc

open Text

/-- Why an inventory gives no routes. -/
inductive InventoryError where
  /-- It is no list. -/
  | notAList
  /-- An entry is no object with a path. -/
  | malformedEntry (entry : Value)
  /-- There is no such file. -/
  | missingFile (path : String)
  /-- The file is not JSON. -/
  | unreadableFile (path : String)
  /-- The file is not text. -/
  | undecodableFile
  /-- An entry holds a value that cannot be worked with. -/
  | fault (f : Fault)
  /-- An entry makes no route. -/
  | invalidRoute (issues : List Issue)
deriving DecidableEq

/-- The error in words. -/
def InventoryError.message : InventoryError → String
  | .notAList => "Route inventory must be a JSON list of routes"
  | .malformedEntry entry => "Malformed route entry: " ++ entry.quoted
  | .missingFile path => "Route inventory not found: " ++ path
  | .unreadableFile path => "Could not read route inventory " ++ path
  | .undecodableFile => ""
  | .fault f => f.message
  | .invalidRoute issues => issueText issues

namespace Inventory

/-- A value that counts as set, or null. -/
def orNull (v : Value) : Value := if v.isTruthy then v else .null

/-- Divide a handler into controller and method, null where there is none. A class without a
method is called itself. -/
def parseHandler (action : Value) : Except Fault (Value × Value) :=
  if !action.isTruthy || action = .str "Closure" then .ok (.null, .null)
  else do
    if ← Path.occursIn "@" action then
      match action with
      | .str s =>
          let (controller, method) := (cut? '@' s).getD (s, "")
          return (orNull (.str controller), orNull (.str method))
      | v => throw (.noOperation v.kind "partition")
    else if ← Path.occursIn "\\" action then return (action, .str "__invoke")
    else match action with
      | .str s =>
          if endsWith s "Controller" then return (action, .str "__invoke")
          else return (.null, .null)
      | v => throw (.noOperation v.kind "endswith")

/-- The middleware of an entry: lines of a text, or the parts of a list. -/
def middlewareOf : Value → Except Fault (List String)
  | .null => .ok []
  | .str s => .ok (((split '\n' s).filter fun part => !isBlankText part).map trim)
  | v => v.iterate.map fun parts => parts.map Value.text

/-- The methods of an entry in upper case: divided by bars, or the parts of a list. -/
def methodsOf (v : Value) : Except Fault (List String) := do
  let raw ← match v with
    | .str s => pure (split '|' s)
    | v => if v.isTruthy then v.iterate.map fun parts => parts.map Value.text else pure []
  return (raw.map fun m => upper (trim m)).filter (· ≠ "HEAD")

/-- What an entry says, before routes are made of it. -/
structure Entry where
  /-- The path. -/
  path : String
  /-- The name, null when there is none. -/
  name : Value
  /-- The controller. -/
  controller : Value
  /-- The method of the controller. -/
  action : Value
  /-- The middleware. -/
  middleware : List String
  /-- The parameters of the path. -/
  parameters : List PathParameter
  /-- The domain. -/
  domain : Value

/-- The route of one method of an entry; the fields that came from free-form values are checked. -/
def Entry.route (e : Entry) (method : String) : Except (List Issue) Route :=
  let text? (key : String) (v : Value) : Checked (Option String) :=
    (Check.optional Check.text (.ofValue v)).under key
  Checked.toExcept <|
    (fun name controller action domain =>
      ({ method, path := e.path, name, controller, action, middleware := e.middleware,
         parameters := e.parameters, domain } : Route))
    <$> text? "name" e.name
    <*> text? "controller" e.controller
    <*> text? "action" e.action
    <*> text? "domain" e.domain

/-- Turn a fault into an error of the inventory. -/
def orFault {α : Type} : Except Fault α → Except InventoryError α
  | .ok a => .ok a
  | .error f => .error (.fault f)

/-- Whether filters let an entry pass; without filters all do. -/
def admitted (engine : PatternEngine) (filters : Option RouteFilters) (uri : String)
    (middleware : List String) (name : Value) : Except Fault Bool :=
  match filters with
  | none => .ok true
  | some f => f.admits engine uri middleware name

/-- The routes of one entry. -/
def entryRoutes (engine : PatternEngine) (filters : Option RouteFilters) (entry : Value) :
    Except InventoryError (List Route) :=
  match entry with
  | .obj es => match Table.get? es "uri" with
      | none => .error (.malformedEntry entry)
      | some uri => do
          let field (key : String) : Value := (Table.get? es key).getD .null
          let uri := uri.text
          let name := orNull (field "name")
          let middleware ← orFault (middlewareOf (field "middleware"))
          let (controller, action) ← orFault (parseHandler (field "action"))
          if controller = .null then return []
          if !(← orFault (admitted engine filters uri middleware name)) then return []
          let path := Path.normalize uri
          let parameters ← orFault (Path.parameters path (field "wheres"))
          let methods ← orFault (methodsOf ((Table.get? es "method").getD (.str "GET")))
          let e : Entry :=
            { path, name, controller, action, middleware, parameters, domain := field "domain" }
          methods.mapM fun method => (e.route method).mapError .invalidRoute
  | v => .error (.malformedEntry v)

/-- The routes of entries in order. -/
def listRoutes (engine : PatternEngine) (filters : Option RouteFilters) :
    List Value → Except InventoryError (List Route)
  | [] => .ok []
  | entry :: rest => do
      let routes ← entryRoutes engine filters entry
      let more ← listRoutes engine filters rest
      return routes ++ more

/-- The routes of an inventory. -/
def routes (engine : PatternEngine) (filters : Option RouteFilters) :
    Value → Except InventoryError (List Route)
  | .arr entries => listRoutes engine filters entries
  | _ => .error .notAList

/-- The routes of an inventory in a file of the given name; no content when there is no such
file. -/
def load (engine : PatternEngine) (filters : Option RouteFilters) (path : String)
    (content : Option ByteArray) : Except InventoryError (List Route) :=
  match content with
  | none => .error (.missingFile path)
  | some bytes => match String.fromUTF8? bytes with
      | none => .error .undecodableFile
      | some s => match Json.read s with
          | .ok v => routes engine filters v
          | .error .malformed => .error (.unreadableFile path)
          | .error (.numeralTooLong digits) => .error (.fault (.numeralTooLong digits))

end Inventory

end RouteDoc
