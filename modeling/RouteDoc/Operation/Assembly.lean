import RouteDoc.Detection
import RouteDoc.Operation.Envelope
import RouteDoc.Operation.Naming
import RouteDoc.Schema.Binary
import RouteDoc.Schema.Registry
import RouteDoc.Security.Middleware
/-!
# RouteDoc.Operation.Assembly

**Putting an operation together** from a route, from what was detected, and from what was stored
about it. A stored field that is there wins, an empty list or `false` included; the others are
left to detection.

* `OperationIds` hands out identifiers: a requested one as long as it is free, otherwise the first
  free one of a row with numbers behind it. Reserved identifiers are never handed out to others.
* `Assembler.assemble` builds an operation and registers the schemas that it needs.
* A query parameter that was detected but makes no parameter is the one thing that fails; its
  identifier is taken all the same.
-/

namespace RouteDoc

open Text

/-! ### Identifiers -/

/-- The identifiers of the operations of a document. -/
structure OperationIds where
  /-- Those that were handed out. -/
  used : List String := []
  /-- Those that are kept for operations that ask for them. -/
  reserved : List String := []
deriving DecidableEq, Inhabited

namespace OperationIds

/-- Whether an identifier is not to be handed out. -/
def isTaken (ids : OperationIds) (id : String) : Bool := id ∈ ids.used || id ∈ ids.reserved

/-- A text, then the text with the numbers from two on behind it. -/
def candidate (base : String) : Nat → String
  | 0 => base
  | n + 1 => base ++ "_" ++ Nat.repr (n + 2)

/-- The first candidate that is free; one of so many must be. -/
def firstFree (ids : OperationIds) (base : String) : String :=
  let count := ids.used.length + ids.reserved.length + 1
  (((List.range count).map (candidate base)).find? fun id => !ids.isTaken id).getD base

/-- Hand out an identifier. -/
def take (ids : OperationIds) (id : String) : OperationIds := { ids with used := ids.used ++ [id] }

/-- Keep identifiers for those that ask for them. -/
def reserve (ids : OperationIds) (new : List String) : OperationIds :=
  { ids with reserved := ids.reserved ++ new }

/-- Hand out the first free candidate. -/
def unique (ids : OperationIds) (base : String) : String × OperationIds :=
  let id := ids.firstFree base
  (id, ids.take id)

/-- Hand out an identifier that was asked for, or one made from it when it is used already. -/
def requested (ids : OperationIds) (id : String) : String × OperationIds :=
  if id ∈ ids.used then ids.unique id else (id, ids.take id)

end OperationIds

/-! ### Parts of an operation -/

namespace Assembly

/-- The parameters of the path. -/
def pathParameters (r : Route) : List Parameter :=
  r.parameters.map fun p =>
    { name := p.name, location := "path", required := p.required, schema := p.schema,
      description := some (filledOr ("The " ++ p.name ++ " identifier") p.description) }

/-- A detected query parameter; its place is the query unless it says otherwise. -/
def queryParameter (p : Fragment) : Checked Parameter :=
  Parameter.check (.ofValue (.obj (Table.insertIfNew p "in" (.str "query"))))

/-- Whether two parameters are the same: name and place. -/
def sameParameter (p q : Parameter) : Bool := p.name = q.name && p.location = q.location

/-- Whether the operation returns pages. -/
def isPaginated (config : GeneratorConfig) (r : Route) (d : Detection) : Bool :=
  config.autoDetection.pagination && upper r.method = "GET"
    && (match d.responses with
      | shape :: _ => shape.isCollection
      | [] => false)

/-- Add those parameters that are not there yet; they are compared with the first list only. -/
def addMissing (ps new : List Parameter) : List Parameter :=
  ps ++ new.filter fun p => !ps.any (sameParameter p)

/-- Add a stored parameter: nothing when it makes no parameter or is there already. -/
def addCustom (ps : List Parameter) (custom : Fragment) : List Parameter :=
  match Parameter.check (.ofValue (.obj custom)) with
  | .valid p => if ps.any (sameParameter p) then ps else ps ++ [p]
  | .invalid _ => ps

/-- The parameters of an operation. -/
def parameters (config : GeneratorConfig) (r : Route) (d : Detection)
    (override : Option OverrideRecord) : Except (List Issue) (List Parameter) := do
  let query ← d.queryParameters.mapM fun p => (queryParameter p).toExcept
  let ps := pathParameters r ++ query
  let ps := if isPaginated config r d then addMissing ps Envelope.pageParameters else ps
  let custom := (override.bind OverrideRecord.customParameters).getD []
  return custom.foldl addCustom ps

/-- Methods that send a body. -/
def writeMethods : List String := ["POST", "PUT", "PATCH"]

/-- The schema of the body that a request sends. -/
def bodySchema (d : Detection) (override : Option OverrideRecord) : Fragment :=
  match override.bind OverrideRecord.requestBodySchema, d.requestSchema, d.inlineSchemas with
  | some schema, _, _ => schema
  | none, some schema, _ => schema
  | none, none, schema :: _ => schema
  | none, none, [] => [("type", .str "object")]

/-- The media type of a body: one that holds files is sent in parts. -/
def bodyType (d : Detection) (schema : Fragment) : String :=
  if Schema.containsBinary (.obj schema) then "multipart/form-data" else d.contentType

/-- The body of a request, for methods that send one. -/
def requestBody (r : Route) (d : Detection) (override : Option OverrideRecord) :
    Option RequestBody :=
  if upper r.method ∈ writeMethods then
    let schema := bodySchema d override
    some {
      required := (override.bind OverrideRecord.requestBodyRequired).getD true
      schema
      sample := (override.map OverrideRecord.requestBodyExample).getD .null
      description := override.bind OverrideRecord.requestBodyDescription
      contentType := bodyType d schema }
  else none

/-- Register the schemas of a response. A plain object does not replace what is known already. -/
def registerShape (registry : Registry) (d : Detection) (shape : ResponseShape) : Registry :=
  let registry :=
    if !registry.has shape.name || shape.schema ≠ [("type", .str "object")] then
      registry.add shape.name (.obj shape.schema)
    else registry
  d.componentSchemas.foldl (fun registry e =>
    if registry.has e.1 then registry else registry.add e.1 (.obj e.2)) registry

/-- The schema of a successful response. -/
def successSchema (registry : Registry) (d : Detection) : Fragment × Registry :=
  match d.responses with
  | [] => (Envelope.unknown, registry)
  | shape :: _ =>
      let (item, registry) := (registerShape registry d shape).refer shape.name
      (if shape.isCollection then Envelope.paginated item else Envelope.single item, registry)

/-- The responses before anything stored is looked at, for a given schema of success. -/
def detectedResponses (config : GeneratorConfig) (r : Route) (d : Detection) (success : Fragment) :
    Table String Response :=
  let status := Naming.successStatus r
  let headers := RateLimit.headers d.rateLimit
  let first : Table String Response :=
    [(Number.intText status,
      { description := Naming.successDescription status r.action, schema := some success,
        headers := if headers.isEmpty then none else some headers })]
  let statuses := d.statusResponses.foldl (fun rs s =>
    Table.insertIfNew rs (Number.intText s.status)
      { description := filledOr "Response" s.description }) first
  config.defaultResponses.foldl (fun rs e =>
    Table.insertIfNew rs (Number.intText e.1)
      { description := e.2.description, schema := some e.2.schema }) statuses

/-- Describe a response by its status. -/
def describe (rs : Table String Response) (e : String × String) : Table String Response :=
  match Table.get? rs e.1 with
  | some r => Table.insert rs e.1 { r with description := e.2 }
  | none => rs

/-- Give a response with content an example. -/
def exemplify (rs : Table String Response) (e : String × Value) : Table String Response :=
  match Table.get? rs e.1 with
  | some r => if r.schema.isSome then Table.insert rs e.1 { r with sample := e.2 } else rs
  | none => rs

/-- Lay stored descriptions and examples over the responses. -/
def overrideResponses (override : Option OverrideRecord) (rs : Table String Response) :
    Table String Response :=
  let rs := ((override.bind OverrideRecord.responseDescriptions).getD []).foldl describe rs
  ((override.bind OverrideRecord.responseExamples).getD []).foldl exemplify rs

/-- The security requirements, when the operation has its own. -/
def security (d : Detection) (override : Option OverrideRecord) :
    Option (List RequirementObject) :=
  match override.bind OverrideRecord.securityRequirements with
  | some requirements => some requirements
  | none =>
      if d.security.isEmpty then none else some (d.security.map SecurityRequirement.toObject)

/-- Where more is written about the operation. -/
def externalDocs (override : Option OverrideRecord) : Option (Table String String) :=
  (filled? (override.bind OverrideRecord.externalDocsUrl)).map fun url =>
    ("url", url) ::
      (match filled? (override.bind OverrideRecord.externalDocsDescription) with
        | some text => [("description", text)]
        | none => [])

end Assembly

/-! ### Whole operations -/

/-- What the operations of one document share. -/
structure Assembler where
  /-- The schemas. -/
  registry : Registry := {}
  /-- The identifiers. -/
  ids : OperationIds := {}
deriving Inhabited

namespace Assembler

/-- The identifier of an operation. -/
def operationId (a : Assembler) (r : Route) (override : Option OverrideRecord) :
    String × OperationIds :=
  match override.bind OverrideRecord.operationId with
  | some id => a.ids.requested id
  | none => a.ids.unique (Naming.operationId r)

/-- Put an operation together. -/
def assemble (config : GeneratorConfig) (a : Assembler) (r : Route) (d : Detection)
    (override : Option OverrideRecord) : Except (List Issue) Operation × Assembler :=
  let (id, ids) := a.operationId r override
  match Assembly.parameters config r d override with
  | .error issues => (.error issues, { a with ids })
  | .ok parameters =>
      let body := Assembly.requestBody r d override
      let registry := match body with
        | some body => a.registry.note (.obj body.schema)
        | none => a.registry
      let (success, registry) := Assembly.successSchema registry d
      let responses :=
        Assembly.overrideResponses override (Assembly.detectedResponses config r d success)
      (.ok {
        method := lower r.method
        path := Path.template r.path
        operationId := id
        summary := (override.bind OverrideRecord.summary).getD (Naming.summary r)
        description := override.bind OverrideRecord.description
        tags := (override.bind OverrideRecord.tags).getD (Naming.tags config.tags r)
        deprecated := (override.bind OverrideRecord.deprecated).getD false
        externalDocs := Assembly.externalDocs override
        parameters
        requestBody := body
        responses
        security := Assembly.security d override }, { registry, ids })

end Assembler

end RouteDoc
