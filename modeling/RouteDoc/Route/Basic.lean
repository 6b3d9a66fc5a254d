import RouteDoc.Check.Basic
/-!
# RouteDoc.Route.Basic

**Routes of an application.** A route is a method and a path together with its handler, its
middleware and the parameters in its path. Two routes with the same method, in any case, and the
same path are the same entry of an inventory: `Route.key`.
-/

namespace RouteDoc

/-- A parameter in a path. -/
structure PathParameter where
  /-- Its name. -/
  name : String
  /-- Whether it has to be given. -/
  required : Bool := true
  /-- Its schema. -/
  schema : Fragment := [("type", .str "string")]
  /-- What it means. -/
  description : Option String := none
deriving DecidableEq, Inhabited

namespace PathParameter

/-- Check a document against the record. -/
def check : Datum → Checked PathParameter :=
  Check.record fun es =>
    PathParameter.mk
      <$> Check.required es ["name"] Check.text
      <*> Check.defaulted es ["required"] Check.truth true
      <*> Check.defaulted es ["schema", "schema_"] Check.fragment [("type", .str "string")]
      <*> Check.maybe es ["description"] Check.text

/-- The record as a value. -/
def toValue (p : PathParameter) : Value :=
  .obj [("name", .str p.name), ("required", .bool p.required), ("schema", .obj p.schema),
    ("description", .ofOption p.description)]

end PathParameter

/-- What identifies a route: the method in upper case and the path. -/
abbrev RouteKey := String × String

/-- The key of a method and a path. -/
def RouteKey.of (method path : String) : RouteKey := (Text.upper method, path)

/-- A route: one method of one path. -/
structure Route where
  /-- The method, in any case. -/
  method : String
  /-- The path, with its parameters in braces. -/
  path : String
  /-- The name of the route. -/
  name : Option String := none
  /-- The class that handles it. -/
  controller : Option String := none
  /-- The method of that class. -/
  action : Option String := none
  /-- The middleware, in order. -/
  middleware : List String := []
  /-- The parameters of the path, in order. -/
  parameters : List PathParameter := []
  /-- The domain that it is bound to. -/
  domain : Option String := none
deriving DecidableEq, Inhabited

namespace Route

/-- What identifies the route. -/
def key (r : Route) : RouteKey := .of r.method r.path

/-- The handler in one text. -/
def handler (r : Route) : Option String :=
  r.controller.map fun controller =>
    match Text.filled? r.action with
    | some action => controller ++ "@" ++ action
    | none => controller

/-- Check a document against the record. -/
def check : Datum → Checked Route :=
  Check.record fun es =>
    Route.mk
      <$> Check.required es ["method"] Check.text
      <*> Check.required es ["path"] Check.text
      <*> Check.maybe es ["name"] Check.text
      <*> Check.maybe es ["controller"] Check.text
      <*> Check.maybe es ["action"] Check.text
      <*> Check.defaulted es ["middleware"] (Check.list Check.text) []
      <*> Check.defaulted es ["parameters"] (Check.list PathParameter.check) []
      <*> Check.maybe es ["domain"] Check.text

/-- The record as a value. -/
def toValue (r : Route) : Value :=
  .obj [("method", .str r.method), ("path", .str r.path), ("name", .ofOption r.name),
    ("controller", .ofOption r.controller), ("action", .ofOption r.action),
    ("middleware", .ofStrings r.middleware),
    ("parameters", .arr (r.parameters.map PathParameter.toValue)),
    ("domain", .ofOption r.domain)]

end Route

end RouteDoc
