import RouteDoc.Record.Override
/-!
# RouteDoc.Operation.Basic

**Operations of a document.** The parts of an operation as records, each with the object that it is
in a document: fields that are empty are left out there, in the fixed order of the format.
-/

namespace RouteDoc

open Text

/-- A field that is written only when it is there. -/
def optionalField (key : String) : Option Value → Fragment
  | some v => [(key, v)]
  | none => []

/-- A value that counts as an example: anything but null. -/
def presentExample (v : Value) : Option Value := if v = .null then none else some v

/-- A parameter of an operation. -/
structure Parameter where
  /-- Its name. -/
  name : String
  /-- Where it is sent: in the path, the query, a header. -/
  location : String
  /-- Whether it has to be given. -/
  required : Bool := false
  /-- Its schema. -/
  schema : Fragment := [("type", .str "string")]
  /-- What it means. -/
  description : Option String := none
deriving DecidableEq, Inhabited

namespace Parameter

/-- The parameter as an object of a document. -/
def toFragment (p : Parameter) : Fragment :=
  [("name", .str p.name), ("in", .str p.location), ("required", .bool p.required)]
    ++ optionalField "description" ((filled? p.description).map .str)
    ++ [("schema", .obj p.schema)]

/-- Check a document against the record. -/
def check : Datum → Checked Parameter :=
  Check.record fun es =>
    Parameter.mk
      <$> Check.required es ["name"] Check.text
      <*> Check.required es ["in", "location"] Check.text
      <*> Check.defaulted es ["required"] Check.truth false
      <*> Check.defaulted es ["schema", "schema_"] Check.fragment [("type", .str "string")]
      <*> Check.maybe es ["description"] Check.text

/-- The record as a value. -/
def toValue (p : Parameter) : Value :=
  .obj [("name", .str p.name), ("in", .str p.location), ("required", .bool p.required),
    ("schema", .obj p.schema), ("description", .ofOption p.description)]

end Parameter

/-- The body of a request. -/
structure RequestBody where
  /-- Whether it has to be sent. -/
  required : Bool := true
  /-- Its schema. -/
  schema : Fragment := [("type", .str "object")]
  /-- An example. -/
  sample : Value := .null
  /-- What it means. -/
  description : Option String := none
  /-- The media type. -/
  contentType : String := "application/json"
deriving DecidableEq, Inhabited

namespace RequestBody

/-- The body as an object of a document. -/
def toFragment (b : RequestBody) : Fragment :=
  let media := [("schema", Value.obj b.schema)] ++ optionalField "example" (presentExample b.sample)
  optionalField "description" ((filled? b.description).map .str)
    ++ [("required", .bool b.required), ("content", .obj [(b.contentType, .obj media)])]

/-- Check a document against the record. -/
def check : Datum → Checked RequestBody :=
  Check.record fun es =>
    RequestBody.mk
      <$> Check.defaulted es ["required"] Check.truth true
      <*> Check.defaulted es ["schema", "schema_"] Check.fragment [("type", .str "object")]
      <*> Check.defaulted es ["example"] Check.any .null
      <*> Check.maybe es ["description"] Check.text
      <*> Check.defaulted es ["content_type"] Check.text "application/json"

/-- The record as a value. -/
def toValue (b : RequestBody) : Value :=
  .obj [("required", .bool b.required), ("schema", .obj b.schema), ("example", b.sample),
    ("description", .ofOption b.description), ("content_type", .str b.contentType)]

end RequestBody

/-- A response of an operation. -/
structure Response where
  /-- What it means. -/
  description : String
  /-- The schema of its content. -/
  schema : Option Fragment := none
  /-- An example. -/
  sample : Value := .null
  /-- Its headers. -/
  headers : Option Fragment := none
deriving DecidableEq, Inhabited

namespace Response

/-- The response as an object of a document. -/
def toFragment (r : Response) : Fragment :=
  [("description", .str r.description)]
    ++ optionalField "headers" ((r.headers.filter fun h => !h.isEmpty).map .obj)
    ++ optionalField "content" (r.schema.map fun schema =>
        let media :=
          [("schema", Value.obj schema)] ++ optionalField "example" (presentExample r.sample)
        .obj [("application/json", .obj media)])

/-- Check a document against the record. -/
def check : Datum → Checked Response :=
  Check.record fun es =>
    Response.mk
      <$> Check.required es ["description"] Check.text
      <*> Check.maybe es ["schema", "schema_"] Check.fragment
      <*> Check.defaulted es ["example"] Check.any .null
      <*> Check.maybe es ["headers"] Check.fragment

/-- The record as a value. -/
def toValue (r : Response) : Value :=
  .obj [("description", .str r.description), ("schema", .ofFragment? r.schema),
    ("example", r.sample), ("headers", .ofFragment? r.headers)]

end Response

/-- One method of one path, ready to be put into a document. -/
structure Operation where
  /-- The method, in lower case. -/
  method : String
  /-- The path. -/
  path : String
  /-- The identifier. -/
  operationId : String
  /-- The summary. -/
  summary : String
  /-- The description. -/
  description : Option String := none
  /-- The tags. -/
  tags : List String := []
  /-- Whether it is deprecated. -/
  deprecated : Bool := false
  /-- Where more is written. -/
  externalDocs : Option (Table String String) := none
  /-- The parameters. -/
  parameters : List Parameter := []
  /-- The request body. -/
  requestBody : Option RequestBody := none
  /-- The responses by status. -/
  responses : Table String Response := []
  /-- The security requirements, when they differ from those of the document. -/
  security : Option (List RequirementObject) := none
deriving DecidableEq, Inhabited

namespace Operation

/-- The operation as an object of a document. -/
def toFragment (o : Operation) : Fragment :=
  [("operationId", .str o.operationId), ("summary", .str o.summary)]
    ++ optionalField "description" ((filled? o.description).map .str)
    ++ optionalField "tags" (if o.tags.isEmpty then none else some (.ofStrings o.tags))
    ++ optionalField "deprecated" (if o.deprecated then some (.bool true) else none)
    ++ optionalField "externalDocs" ((o.externalDocs.filter fun d => !d.isEmpty).map Value.ofTexts)
    ++ optionalField "parameters"
        (if o.parameters.isEmpty then none
         else some (.arr (o.parameters.map fun p => .obj p.toFragment)))
    ++ optionalField "requestBody" (o.requestBody.map fun b => .obj b.toFragment)
    ++ [("responses", .obj (Table.mapValues (fun r => .obj r.toFragment) o.responses))]
    ++ optionalField "security"
        (o.security.map fun rs => .arr (rs.map RequirementObject.toValue))

/-- Check a document against the record. -/
def check : Datum → Checked Operation :=
  Check.record fun es =>
    Operation.mk
      <$> Check.required es ["method"] Check.text
      <*> Check.required es ["path"] Check.text
      <*> Check.required es ["operation_id"] Check.text
      <*> Check.required es ["summary"] Check.text
      <*> Check.maybe es ["description"] Check.text
      <*> Check.defaulted es ["tags"] (Check.list Check.text) []
      <*> Check.defaulted es ["deprecated"] Check.truth false
      <*> Check.maybe es ["external_docs"] (Check.table Check.text)
      <*> Check.defaulted es ["parameters"] (Check.list Parameter.check) []
      <*> Check.maybe es ["request_body"] RequestBody.check
      <*> Check.defaulted es ["responses"] (Check.table Response.check) []
      <*> Check.maybe es ["security"] (Check.list RequirementObject.check)

/-- The record as a value. -/
def toValue (o : Operation) : Value :=
  .obj [("method", .str o.method), ("path", .str o.path), ("operation_id", .str o.operationId),
    ("summary", .str o.summary), ("description", .ofOption o.description),
    ("tags", .ofStrings o.tags), ("deprecated", .bool o.deprecated),
    ("external_docs", (o.externalDocs.map Value.ofTexts).getD .null),
    ("parameters", .arr (o.parameters.map Parameter.toValue)),
    ("request_body", (o.requestBody.map RequestBody.toValue).getD .null),
    ("responses", .obj (Table.mapValues Response.toValue o.responses)),
    ("security", .ofList? RequirementObject.toValue o.security)]

end Operation

end RouteDoc
