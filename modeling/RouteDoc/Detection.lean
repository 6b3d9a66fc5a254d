import RouteDoc.Security.Basic
/-!
# RouteDoc.Detection

**What the sources tell about a route**: the schema of its request, the shape of its response,
further statuses, security, and what could not be understood.
-/

namespace RouteDoc

/-- The item of a response: a named schema, and whether a list of such items is returned. -/
structure ResponseShape where
  /-- The name of the component. -/
  name : String
  /-- Its schema. -/
  schema : Fragment
  /-- Whether the response is a list of items. -/
  isCollection : Bool := false
deriving DecidableEq, Inhabited

namespace ResponseShape

/-- Check a document against the record. -/
def check : Datum → Checked ResponseShape :=
  Check.record fun es =>
    ResponseShape.mk
      <$> Check.required es ["name"] Check.text
      <*> Check.required es ["schema", "schema_"] Check.fragment
      <*> Check.defaulted es ["is_collection"] Check.truth false

/-- The record as a value. -/
def toValue (r : ResponseShape) : Value :=
  .obj [("name", .str r.name), ("schema", .obj r.schema), ("is_collection", .bool r.isCollection)]

end ResponseShape

/-- A response that a route may give besides success. -/
structure StatusResponse where
  /-- The status. -/
  status : Int
  /-- What it means. -/
  description : Option String := none
deriving DecidableEq, Inhabited

namespace StatusResponse

/-- Check a document against the record. -/
def check : Datum → Checked StatusResponse :=
  Check.record fun es =>
    StatusResponse.mk
      <$> Check.required es ["status"] Check.integer
      <*> Check.maybe es ["description"] Check.text

/-- The record as a value. -/
def toValue (r : StatusResponse) : Value :=
  .obj [("status", .int r.status), ("description", .ofOption r.description)]

end StatusResponse

/-- Everything that was found out about a route. -/
structure Detection where
  /-- The class of the request. -/
  requestClass : Option String := none
  /-- The schema that its rules make. -/
  requestSchema : Option Fragment := none
  /-- The schemas of rules inside the handler. -/
  inlineSchemas : List Fragment := []
  /-- The media type of the request. -/
  contentType : String := "application/json"
  /-- Query parameters, as free-form objects. -/
  queryParameters : List Fragment := []
  /-- The shapes of the response; the first one counts. -/
  responses : List ResponseShape := []
  /-- Schemas that the shapes refer to. -/
  componentSchemas : Table String Fragment := []
  /-- Further responses. -/
  statusResponses : List StatusResponse := []
  /-- Security requirements. -/
  security : List SecurityRequirement := []
  /-- A limit on the rate of requests. -/
  rateLimit : Option RateLimit := none
  /-- What could not be understood. -/
  diagnostics : List String := []
deriving DecidableEq, Inhabited

namespace Detection

/-- Check a document against the record. -/
def check : Datum → Checked Detection :=
  Check.record fun es =>
    Detection.mk
      <$> Check.maybe es ["request_class"] Check.text
      <*> Check.maybe es ["request_schema"] Check.fragment
      <*> Check.defaulted es ["inline_schemas"] (Check.list Check.fragment) []
      <*> Check.defaulted es ["content_type"] Check.text "application/json"
      <*> Check.defaulted es ["query_parameters"] (Check.list Check.fragment) []
      <*> Check.defaulted es ["responses"] (Check.list ResponseShape.check) []
      <*> Check.defaulted es ["component_schemas"] (Check.table Check.fragment) []
      <*> Check.defaulted es ["status_responses"] (Check.list StatusResponse.check) []
      <*> Check.defaulted es ["security"] (Check.list SecurityRequirement.check) []
      <*> Check.maybe es ["rate_limit"] RateLimit.check
      <*> Check.defaulted es ["diagnostics"] (Check.list Check.text) []

/-- The record as a value. -/
def toValue (d : Detection) : Value :=
  .obj [("request_class", .ofOption d.requestClass),
    ("request_schema", .ofFragment? d.requestSchema),
    ("inline_schemas", .ofFragments d.inlineSchemas), ("content_type", .str d.contentType),
    ("query_parameters", .ofFragments d.queryParameters),
    ("responses", .arr (d.responses.map ResponseShape.toValue)),
    ("component_schemas", .obj (Table.mapValues .obj d.componentSchemas)),
    ("status_responses", .arr (d.statusResponses.map StatusResponse.toValue)),
    ("security", .arr (d.security.map SecurityRequirement.toValue)),
    ("rate_limit", (d.rateLimit.map RateLimit.toValue).getD .null),
    ("diagnostics", .ofStrings d.diagnostics)]

end Detection

end RouteDoc
