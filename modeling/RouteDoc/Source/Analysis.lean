import RouteDoc.Document.Build
import RouteDoc.Schema.Binary
import RouteDoc.Source.Controller
import RouteDoc.Source.QueryParameters
import RouteDoc.Source.Resource
/-!
# RouteDoc.Source.Analysis

**What the sources tell about a route.** The handler is looked at first; it leads to the rules of the
request and to the resource of the response.

The parts can be switched off one by one. What is known about resources is kept from one route to the
next.
-/

namespace RouteDoc.Source

open RouteDoc.Text

/-- What the request of a route tells. -/
structure RequestFindings where
  /-- The schema that the rules of the request class make. -/
  schema : Option Fragment := none
  /-- The schemas of the rules inside the handler. -/
  inlineSchemas : List Fragment := []
  /-- The documented query parameters. -/
  queryParameters : List Fragment := []
  /-- Rules that make no schema. -/
  diagnostics : List Rule.Diagnostic := []

/-- What the request class and the rules inside the handler tell. -/
def SourceIndex.request (index : SourceIndex) (parts : AutoDetection) (found : Findings) :
    Noting RequestFindings := do
  let own ← match found.requestClass.filter fun name => parts.formRequests && name ≠ "" with
    | none => pure {}
    | some name => do
        let schema := (← index.requestRules name).map Rule.objectSchema
        let result : RequestFindings :=
          { schema := schema.map Prod.fst, queryParameters := index.queryParameters name,
            diagnostics := (schema.map Prod.snd).getD [] }
        pure result
  let inlined := if parts.inlineValidation then found.inlineRules.map Rule.objectSchema else []
  return { own with
    inlineSchemas := inlined.map Prod.fst
    diagnostics := own.diagnostics ++ inlined.flatMap Prod.snd }

/-- The media type of a body with one of the schemas; the schema of the request class counts
before the first one of the handler. -/
def mediaType (schema : Option Fragment) (inlineSchemas : List Fragment) : String :=
  match schema.or inlineSchemas.head? with
  | some body =>
      if Schema.containsBinary (.obj body) then "multipart/form-data" else "application/json"
  | none => "application/json"

/-- What the sources tell about a handler. -/
def SourceIndex.detect (index : SourceIndex) (config : GeneratorConfig)
    (controller action : String) : StateM ResourceCache Detection := do
  let (found, inlineIssues) :=
    (index.findings config.responseMacros controller action).run []
  let (request, ruleIssues) := (index.request config.autoDetection found).run inlineIssues
  let resource := found.resource.filter fun (name, _) =>
    config.autoDetection.jsonResources && name ≠ ""
  let cache ← get
  let (shape, state) := match resource with
    | some (name, isList) =>
        let (shape, state) := (index.responseShape name isList).run { cache }
        (some shape, state)
    | none => (none, { cache })
  set state.cache
  let issues := found.issues ++ request.diagnostics.map .rule ++ ruleIssues ++ state.issues
  return {
    requestClass := found.requestClass.filter fun name =>
      config.autoDetection.formRequests && name ≠ ""
    requestSchema := request.schema
    inlineSchemas := request.inlineSchemas
    contentType := mediaType request.schema request.inlineSchemas
    queryParameters := request.queryParameters
    responses := (shape.map Prod.fst).toList
    componentSchemas := (shape.map Prod.snd).getD []
    statusResponses := found.statusResponses
    diagnostics := issues.map SourceIssue.message }

/-- The analyzer that reads the sources of an index. -/
def analyzer (config : GeneratorConfig) (index : SourceIndex) : Analyzer ResourceCache :=
  fun route => do
    match filled? route.controller, filled? route.action with
    | some controller, some action => return .ok (← index.detect config controller action)
    | _, _ => return .ok {}

end RouteDoc.Source
