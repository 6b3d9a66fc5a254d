import RouteDoc.Record.SecurityScheme
import RouteDoc.Route.Filter
/-!
# RouteDoc.Config.Basic

**The configuration of a document**: its head, which routes belong to it, the responses and security
schemes that all operations share, and where the sources are.

Every part has defaults, so an empty configuration is complete; some defaults are taken from an
`Environment` of named texts. `GeneratorConfig.check` reads a configuration from a document.
-/

namespace RouteDoc

open Text

/-- Named texts that stand in for missing parts of a configuration. -/
abbrev Environment := Table String String

/-- Entries whose text is not empty. -/
def filledEntries (es : List (String × String)) : Fragment :=
  (es.filter fun e => e.2 ≠ "").map fun e => (e.1, .str e.2)

/-- Whom to ask about an interface. -/
structure Contact where
  /-- Who it is. -/
  name : String := ""
  /-- A mail address. -/
  email : String := ""
  /-- A page. -/
  url : String := ""
deriving DecidableEq, Inhabited

namespace Contact

/-- Check a document against the record. -/
def check : Datum → Checked Contact :=
  Check.record fun es =>
    Contact.mk
      <$> Check.defaulted es ["name"] Check.text ""
      <*> Check.defaulted es ["email"] Check.text ""
      <*> Check.defaulted es ["url"] Check.text ""

/-- The fields that are filled. -/
def toFragment (c : Contact) : Fragment :=
  filledEntries [("name", c.name), ("email", c.email), ("url", c.url)]

/-- The record as a value. -/
def toValue (c : Contact) : Value :=
  .obj [("name", .str c.name), ("email", .str c.email), ("url", .str c.url)]

end Contact

/-- Under which terms an interface is offered. -/
structure License where
  /-- The name of the terms. -/
  name : String := ""
  /-- Where they are written. -/
  url : String := ""
deriving DecidableEq, Inhabited

namespace License

/-- Check a document against the record. -/
def check : Datum → Checked License :=
  Check.record fun es =>
    License.mk
      <$> Check.defaulted es ["name"] Check.text ""
      <*> Check.defaulted es ["url"] Check.text ""

/-- The fields that are filled. -/
def toFragment (l : License) : Fragment := filledEntries [("name", l.name), ("url", l.url)]

/-- The record as a value. -/
def toValue (l : License) : Value := .obj [("name", .str l.name), ("url", .str l.url)]

end License

/-- The head of a document. -/
structure Info where
  /-- The title. -/
  title : String := "API Documentation"
  /-- The version of the interface. -/
  version : String := "1.0.0"
  /-- What it is for. -/
  description : String := ""
  /-- Whom to ask. -/
  contact : Contact := {}
  /-- Its terms. -/
  license : License := {}
deriving DecidableEq, Inhabited

namespace Info

/-- The head that an environment gives. -/
def ofEnvironment (env : Environment) : Info :=
  let default : Info := {}
  { title := (Table.get? env "OPENAPI_TITLE").getD default.title
    version := (Table.get? env "OPENAPI_VERSION").getD default.version
    description := (Table.get? env "OPENAPI_DESCRIPTION").getD default.description }

/-- Check a document against the record. -/
def check (env : Environment) : Datum → Checked Info :=
  Check.record fun es =>
    let default := ofEnvironment env
    Info.mk
      <$> Check.defaulted es ["title"] Check.text default.title
      <*> Check.defaulted es ["version"] Check.text default.version
      <*> Check.defaulted es ["description"] Check.text default.description
      <*> Check.defaulted es ["contact"] Contact.check default.contact
      <*> Check.defaulted es ["license"] License.check default.license

/-- The head as an object of a document. -/
def toFragment (i : Info) : Fragment :=
  let contact := i.contact.toFragment
  [("title", Value.str i.title), ("version", .str i.version)]
    ++ (if i.description = "" then [] else [("description", .str i.description)])
    ++ (if contact.isEmpty then [] else [("contact", .obj contact)])
    ++ (if i.license.name = "" then [] else [("license", .obj i.license.toFragment)])

/-- The record as a value. -/
def toValue (i : Info) : Value :=
  .obj [("title", .str i.title), ("version", .str i.version), ("description", .str i.description),
    ("contact", i.contact.toValue), ("license", i.license.toValue)]

end Info

/-- A server that offers an interface. -/
structure Server where
  /-- Its address. -/
  url : String
  /-- What it is. -/
  description : Option String := none
deriving DecidableEq, Inhabited

namespace Server

/-- The servers that an environment gives. -/
def ofEnvironment (env : Environment) : List Server :=
  [⟨(Table.get? env "APP_URL").getD "http://localhost", some "Current Environment"⟩]

/-- Check a document against the record. -/
def check : Datum → Checked Server :=
  Check.record fun es =>
    Server.mk <$> Check.required es ["url"] Check.text <*> Check.maybe es ["description"] Check.text

/-- The server as an object of a document. -/
def toFragment (s : Server) : Fragment :=
  ("url", .str s.url) :: (match s.description with
    | some text => [("description", .str text)]
    | none => [])

/-- The record as a value. -/
def toValue (s : Server) : Value :=
  .obj [("url", .str s.url), ("description", .ofOption s.description)]

end Server

/-- A response helper of the sources: the status that it stands for. -/
structure ResponseMacro where
  /-- The status. -/
  status : Int
  /-- What it means. -/
  description : String
deriving DecidableEq, Inhabited

namespace ResponseMacro

/-- Check a document against the record. -/
def check : Datum → Checked ResponseMacro :=
  Check.record fun es =>
    ResponseMacro.mk
      <$> Check.required es ["status"] Check.integer
      <*> Check.required es ["description"] Check.text

/-- The record as a value. -/
def toValue (m : ResponseMacro) : Value :=
  .obj [("status", .int m.status), ("description", .str m.description)]

/-- The helpers that are known without configuration. -/
def defaults : Table String ResponseMacro :=
  [ ("show", ⟨200, "Successful response"⟩),
    ("created", ⟨201, "Resource created"⟩),
    ("updated", ⟨200, "Resource updated"⟩),
    ("deleted", ⟨200, "Resource deleted"⟩),
    ("success", ⟨200, "Operation successful"⟩),
    ("error", ⟨400, "Bad request"⟩) ]

end ResponseMacro

/-- A response that every operation has. -/
structure DefaultResponse where
  /-- What it means. -/
  description : String
  /-- The schema of its content. -/
  schema : Fragment
deriving DecidableEq, Inhabited

namespace DefaultResponse

/-- Check a document against the record. -/
def check : Datum → Checked DefaultResponse :=
  Check.record fun es =>
    DefaultResponse.mk
      <$> Check.required es ["description"] Check.text
      <*> Check.required es ["schema", "schema_"] Check.fragment

/-- The response as an object of a document. -/
def toFragment (r : DefaultResponse) : Fragment :=
  [("description", .str r.description),
    ("content", .obj [("application/json", .obj [("schema", .obj r.schema)])])]

/-- The record as a value. -/
def toValue (r : DefaultResponse) : Value :=
  .obj [("description", .str r.description), ("schema", .obj r.schema)]

/-- The schema of an object with a message. -/
def message (sample : String) (more : Fragment) : Fragment :=
  [("type", .str "object"),
    ("properties", .obj
      (("message", .obj [("type", .str "string"), ("example", .str sample)]) :: more))]

/-- The lists of errors by field. -/
def fieldErrors : Fragment :=
  [("errors", .obj [("type", .str "object"),
    ("additionalProperties", .obj [("type", .str "array"),
      ("items", .obj [("type", .str "string")])])])]

/-- The responses that operations have without configuration. -/
def defaults : Table Int DefaultResponse :=
  [ (401, ⟨"Unauthenticated", message "Unauthenticated." []⟩),
    (403, ⟨"Forbidden", message "This action is unauthorized." []⟩),
    (404, ⟨"Not Found", message "Resource not found." []⟩),
    (422, ⟨"Validation Error", message "The given data was invalid." fieldErrors⟩),
    (500, ⟨"Server Error", message "Server Error" []⟩) ]

end DefaultResponse

/-- A security scheme of the configuration, with the middleware that stands for it. -/
structure SecuritySchemeConfig where
  /-- The type. -/
  type : String
  /-- The scheme of the authorization header. -/
  scheme : Option String := none
  /-- The format of a bearer token. -/
  bearerFormat : Option String := none
  /-- Where a key is sent. -/
  location : Option String := none
  /-- The name of a key. -/
  name : Option String := none
  /-- What the scheme is for. -/
  description : Option String := none
  /-- The flows of an authorization server. -/
  flows : Option Fragment := none
  /-- Where an identity provider describes itself. -/
  openIdConnectUrl : Option String := none
  /-- The middleware that stands for it. -/
  middleware : List String := []
deriving DecidableEq, Inhabited

namespace SecuritySchemeConfig

/-- Check a document against the record. -/
def check : Datum → Checked SecuritySchemeConfig :=
  Check.record fun es =>
    SecuritySchemeConfig.mk
      <$> Check.required es ["type"] Check.text
      <*> Check.maybe es ["scheme"] Check.text
      <*> Check.maybe es ["bearerFormat", "bearer_format"] Check.text
      <*> Check.maybe es ["in", "location"] Check.text
      <*> Check.maybe es ["name"] Check.text
      <*> Check.maybe es ["description"] Check.text
      <*> Check.maybe es ["flows"] Check.fragment
      <*> Check.maybe es ["openIdConnectUrl", "open_id_connect_url"] Check.text
      <*> Check.defaulted es ["middleware"] (Check.list Check.text) []

/-- The record of a scheme under a name. -/
def toRecord (s : SecuritySchemeConfig) (name : String) (isDefault : Bool) :
    SecuritySchemeRecord :=
  { name, type := s.type, apiKeyName := s.name, apiKeyIn := s.location, scheme := s.scheme,
    bearerFormat := s.bearerFormat, flows := s.flows, openIdConnectUrl := s.openIdConnectUrl,
    description := s.description, middleware := s.middleware, isDefault }

/-- The record as a value. -/
def toValue (s : SecuritySchemeConfig) : Value :=
  .obj [("type", .str s.type), ("scheme", .ofOption s.scheme),
    ("bearerFormat", .ofOption s.bearerFormat), ("in", .ofOption s.location),
    ("name", .ofOption s.name), ("description", .ofOption s.description),
    ("flows", .ofFragment? s.flows), ("openIdConnectUrl", .ofOption s.openIdConnectUrl),
    ("middleware", .ofStrings s.middleware)]

/-- The schemes that are known without configuration. -/
def defaults : Table String SecuritySchemeConfig :=
  [ ("bearerAuth",
      { type := "http", scheme := some "bearer", bearerFormat := some "JWT",
        middleware := ["auth:sanctum", "auth:api", "auth"] }),
    ("apiKey",
      { type := "apiKey", location := some "header", name := some "X-API-Key",
        middleware := ["api.key"] }) ]

end SecuritySchemeConfig

/-- Where a document is written. -/
structure OutputConfig where
  /-- The file. -/
  path : String := "public/docs/openapi.yaml"
  /-- The format. -/
  format : String := "yaml"
deriving DecidableEq, Inhabited

namespace OutputConfig

/-- Check a document against the record. -/
def check : Datum → Checked OutputConfig :=
  Check.record fun es =>
    let default : OutputConfig := {}
    OutputConfig.mk
      <$> Check.defaulted es ["path"] Check.text default.path
      <*> Check.defaulted es ["format"] Check.text default.format

/-- The record as a value. -/
def toValue (o : OutputConfig) : Value := .obj [("path", .str o.path), ("format", .str o.format)]

end OutputConfig

/-- Which parts of the sources are looked at. -/
structure AutoDetection where
  /-- Resources that describe responses. -/
  jsonResources : Bool := true
  /-- Classes of requests. -/
  formRequests : Bool := true
  /-- Rules inside handlers. -/
  inlineValidation : Bool := true
  /-- Parameters for pages of lists. -/
  pagination : Bool := true
deriving DecidableEq, Inhabited

namespace AutoDetection

/-- Check a document against the record. -/
def check : Datum → Checked AutoDetection :=
  Check.record fun es =>
    AutoDetection.mk
      <$> Check.defaulted es ["json_resources"] Check.truth true
      <*> Check.defaulted es ["form_requests"] Check.truth true
      <*> Check.defaulted es ["inline_validation"] Check.truth true
      <*> Check.defaulted es ["pagination"] Check.truth true

/-- The record as a value. -/
def toValue (a : AutoDetection) : Value :=
  .obj [("json_resources", .bool a.jsonResources), ("form_requests", .bool a.formRequests),
    ("inline_validation", .bool a.inlineValidation), ("pagination", .bool a.pagination)]

end AutoDetection

/-- Where tags come from. -/
structure TagsConfig where
  /-- From the name of the controller. -/
  fromController : Bool := true
  /-- From the first part of the path. -/
  fromPrefix : Bool := false
  /-- Tags of controllers by name. -/
  mappings : Table String String := []
deriving DecidableEq, Inhabited

namespace TagsConfig

/-- Check a document against the record. -/
def check : Datum → Checked TagsConfig :=
  Check.record fun es =>
    TagsConfig.mk
      <$> Check.defaulted es ["from_controller"] Check.truth true
      <*> Check.defaulted es ["from_prefix"] Check.truth false
      <*> Check.defaulted es ["mappings"] (Check.table Check.text) []

/-- The record as a value. -/
def toValue (t : TagsConfig) : Value :=
  .obj [("from_controller", .bool t.fromController), ("from_prefix", .bool t.fromPrefix),
    ("mappings", .ofTexts t.mappings)]

end TagsConfig

/-- Where the sources are. -/
structure SourceConfig where
  /-- The directory of the application. -/
  root : String := "."
  /-- The directories of namespaces. -/
  namespaces : Table String String := [("App\\", "app/")]
deriving DecidableEq, Inhabited

namespace SourceConfig

/-- Check a document against the record. -/
def check : Datum → Checked SourceConfig :=
  Check.record fun es =>
    let default : SourceConfig := {}
    SourceConfig.mk
      <$> Check.defaulted es ["root"] Check.text default.root
      <*> Check.defaulted es ["namespaces"] (Check.table Check.text) default.namespaces

/-- The record as a value. -/
def toValue (s : SourceConfig) : Value :=
  .obj [("root", .str s.root), ("namespaces", .ofTexts s.namespaces)]

end SourceConfig

/-- A whole configuration. -/
structure GeneratorConfig where
  /-- The version of the document's format. -/
  openapiVersion : String := "3.0.3"
  /-- The head of the document. -/
  info : Info := {}
  /-- The servers. -/
  servers : List Server := Server.ofEnvironment []
  /-- Which routes belong to the document. -/
  routeFilters : RouteFilters := {}
  /-- The response helpers of the sources. -/
  responseMacros : Table String ResponseMacro := ResponseMacro.defaults
  /-- The responses that all operations have, by status. -/
  defaultResponses : Table Int DefaultResponse := DefaultResponse.defaults
  /-- The security schemes. -/
  securitySchemes : Table String SecuritySchemeConfig := SecuritySchemeConfig.defaults
  /-- Where the document goes. -/
  output : OutputConfig := {}
  /-- Which parts of the sources are looked at. -/
  autoDetection : AutoDetection := {}
  /-- Where tags come from. -/
  tags : TagsConfig := {}
  /-- Where the sources are. -/
  source : SourceConfig := {}
  /-- Where stored documentation is kept. -/
  databaseUrl : Option String := none
deriving DecidableEq, Inhabited

namespace GeneratorConfig

/-- The configuration that an environment gives. -/
def ofEnvironment (env : Environment) : GeneratorConfig :=
  { info := .ofEnvironment env, servers := Server.ofEnvironment env }

/-- Check a document against the record. -/
def check (env : Environment) : Datum → Checked GeneratorConfig :=
  Check.record fun es =>
    let default := ofEnvironment env
    GeneratorConfig.mk
      <$> Check.defaulted es ["openapi_version"] Check.text default.openapiVersion
      <*> Check.defaulted es ["info"] (Info.check env) default.info
      <*> Check.defaulted es ["servers"] (Check.list Server.check) default.servers
      <*> Check.defaulted es ["route_filters"] RouteFilters.check default.routeFilters
      <*> Check.defaulted es ["response_macros"] (Check.table ResponseMacro.check)
            default.responseMacros
      <*> Check.defaulted es ["default_responses"]
            (Check.mapping Check.integer DefaultResponse.check) default.defaultResponses
      <*> Check.defaulted es ["security_schemes"] (Check.table SecuritySchemeConfig.check)
            default.securitySchemes
      <*> Check.defaulted es ["output"] OutputConfig.check default.output
      <*> Check.defaulted es ["auto_detection"] AutoDetection.check default.autoDetection
      <*> Check.defaulted es ["tags"] TagsConfig.check default.tags
      <*> Check.defaulted es ["source"] SourceConfig.check default.source
      <*> Check.maybe es ["database_url"] Check.text

/-- The configured schemes as records; the first one is the default. -/
def securitySchemeRecords (c : GeneratorConfig) : List SecuritySchemeRecord :=
  c.securitySchemes.zipIdx.map fun ((name, scheme), i) => scheme.toRecord name (i = 0)

/-- The record as a value. -/
def toValue (c : GeneratorConfig) : Value :=
  .obj [("openapi_version", .str c.openapiVersion), ("info", c.info.toValue),
    ("servers", .arr (c.servers.map Server.toValue)),
    ("route_filters", c.routeFilters.toValue),
    ("response_macros", .obj (Table.mapValues ResponseMacro.toValue c.responseMacros)),
    ("default_responses", .obj (c.defaultResponses.map fun (code, r) =>
      (Number.intText code, r.toValue))),
    ("security_schemes", .obj (Table.mapValues SecuritySchemeConfig.toValue c.securitySchemes)),
    ("output", c.output.toValue), ("auto_detection", c.autoDetection.toValue),
    ("tags", c.tags.toValue), ("source", c.source.toValue),
    ("database_url", .ofOption c.databaseUrl)]

end GeneratorConfig

end RouteDoc
