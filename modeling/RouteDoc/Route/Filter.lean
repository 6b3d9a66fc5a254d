import RouteDoc.Fault
import RouteDoc.Route.Basic
import RouteDoc.Text.Pattern
/-!
# RouteDoc.Route.Filter

**Which routes are documented.** Filters look at the path without its leading slashes, at the
middleware and at the name of a route. Names are searched for patterns by a `PatternEngine`; a text
that is no pattern is ignored.
-/

namespace RouteDoc

open Text

/-- What decides whether a route is documented. -/
structure RouteFilters where
  /-- Starts of paths that are documented; all when there are none. -/
  includePrefixes : List String := ["api/", "v1/", "v2/", "v3/", "v4/"]
  /-- Starts of paths that are left out. -/
  excludePrefixes : List String := ["_ignition", "sanctum", "horizon", "telescope"]
  /-- Middleware of routes that are left out. -/
  excludeMiddleware : List String := ["web"]
  /-- Middleware of which a route must have some; any when there is none. -/
  includeMiddleware : List String := []
  /-- Patterns for names of routes that are left out. -/
  excludeNames : List String := []
deriving DecidableEq, Inhabited

namespace RouteFilters

/-- Check a document against the record. -/
def check : Datum → Checked RouteFilters :=
  Check.record fun es =>
    let texts := Check.list Check.text
    let default : RouteFilters := {}
    RouteFilters.mk
      <$> Check.defaulted es ["include_prefixes"] texts default.includePrefixes
      <*> Check.defaulted es ["exclude_prefixes"] texts default.excludePrefixes
      <*> Check.defaulted es ["exclude_middleware"] texts default.excludeMiddleware
      <*> Check.defaulted es ["include_middleware"] texts default.includeMiddleware
      <*> Check.defaulted es ["exclude_names"] texts default.excludeNames

/-- The record as a value. -/
def toValue (f : RouteFilters) : Value :=
  .obj [("include_prefixes", .ofStrings f.includePrefixes),
    ("exclude_prefixes", .ofStrings f.excludePrefixes),
    ("exclude_middleware", .ofStrings f.excludeMiddleware),
    ("include_middleware", .ofStrings f.includeMiddleware),
    ("exclude_names", .ofStrings f.excludeNames)]

/-- Whether the filters on paths and middleware let a route pass. -/
def admitsPlace (f : RouteFilters) (uri : String) (middleware : List String) : Bool :=
  let bare := trimLeftBy (· = '/') uri
  !f.excludePrefixes.any (startsWith bare)
    && (f.includePrefixes.isEmpty || f.includePrefixes.any (startsWith bare))
    && !f.excludeMiddleware.any (· ∈ middleware)
    && (f.includeMiddleware.isEmpty || f.includeMiddleware.any (· ∈ middleware))

/-- Whether a pattern, which may stand between slashes, matches a name. Only a text can be searched,
and nothing is searched for a text that is no pattern. -/
def matchesName (engine : PatternEngine) (pattern : String) (name : Value) : Except Fault Bool :=
  match engine (trimBy (· = '/') pattern) with
  | .error .malformed => .ok false
  | .error (.fault f) => .error f
  | .ok search => match name with
      | .str s => .ok (search s)
      | v => .error (.notText v.kind)

/-- Whether no pattern matches a name; those behind the first that does are not read. -/
def admitsName (engine : PatternEngine) (name : Value) : List String → Except Fault Bool
  | [] => .ok true
  | pattern :: rest => do
      if ← matchesName engine pattern name then return false else admitsName engine name rest

/-- Whether a route is documented. -/
def admits (engine : PatternEngine) (f : RouteFilters) (uri : String) (middleware : List String)
    (name : Value) : Except Fault Bool :=
  if !f.admitsPlace uri middleware then .ok false
  else if !name.isTruthy then .ok true
  else admitsName engine name f.excludeNames

end RouteFilters

end RouteDoc
