import RouteDoc.Route.Basic
/-!
# RouteDoc.Record.Override

**Stored documentation of a route.** Every descriptive field may be absent, which lets what was
found in the sources stand; any other value, an empty list or `false` included, takes its place.
-/

namespace RouteDoc

/-- Security requirements: scheme names with the scopes of each. -/
abbrev RequirementObject := Table String (List String)

/-- A requirement as a value. -/
def RequirementObject.toValue (r : RequirementObject) : Value :=
  .obj (Table.mapValues Value.ofStrings r)

/-- Check a document against a requirement. -/
def RequirementObject.check : Datum → Checked RequirementObject := Check.table (Check.list Check.text)

/-- A point in time. -/
structure Time where
  /-- The time as it was written. -/
  text : String
deriving DecidableEq, Inhabited

/-- Check a document against a time; it is kept as it stands there. -/
def Time.check (d : Datum) : Checked Time := .valid ⟨d.toValue.text⟩

/-- Documentation that was stored for one route. -/
structure OverrideRecord where
  /-- The method, in any case. -/
  httpMethod : String
  /-- The path. -/
  uri : String
  /-- The name of the route. -/
  routeName : Option String := none
  /-- The class that handles it. -/
  controller : Option String := none
  /-- The method of that class. -/
  action : Option String := none
  /-- The identifier of the operation. -/
  operationId : Option String := none
  /-- The summary. -/
  summary : Option String := none
  /-- The description. -/
  description : Option String := none
  /-- The tags. -/
  tags : Option (List String) := none
  /-- Whether the operation is deprecated. -/
  deprecated : Option Bool := none
  /-- Where more is written. -/
  externalDocsUrl : Option String := none
  /-- What is written there. -/
  externalDocsDescription : Option String := none
  /-- The description of the request body. -/
  requestBodyDescription : Option String := none
  /-- The example of a request body. -/
  requestBodyExample : Value := .null
  /-- Whether a request body is required. -/
  requestBodyRequired : Option Bool := none
  /-- The schema of the request body. -/
  requestBodySchema : Option Fragment := none
  /-- Descriptions of responses by status. -/
  responseDescriptions : Option (Table String String) := none
  /-- Examples of responses by status. -/
  responseExamples : Option Fragment := none
  /-- Further parameters, as free-form objects. -/
  customParameters : Option (List Fragment) := none
  /-- The security requirements. -/
  securityRequirements : Option (List RequirementObject) := none
  /-- Whether the route is left out of the document. -/
  isHidden : Bool := false
  /-- What the last scan saw besides the handler. -/
  autoDetectedData : Option Fragment := none
  /-- When a scan last wrote the record. -/
  lastScannedAt : Option Time := none
deriving DecidableEq, Inhabited

namespace OverrideRecord

/-- What identifies the record. -/
def key (r : OverrideRecord) : RouteKey := .of r.httpMethod r.uri

/-- Whether something was written about the route. -/
def isDocumented (r : OverrideRecord) : Bool :=
  (Text.filled? r.summary).isSome || (Text.filled? r.description).isSome

/-- Check a document against the record. -/
def check : Datum → Checked OverrideRecord :=
  Check.record fun es =>
    OverrideRecord.mk
      <$> Check.required es ["http_method"] Check.text
      <*> Check.required es ["uri"] Check.text
      <*> Check.maybe es ["route_name"] Check.text
      <*> Check.maybe es ["controller"] Check.text
      <*> Check.maybe es ["action"] Check.text
      <*> Check.maybe es ["operation_id"] Check.text
      <*> Check.maybe es ["summary"] Check.text
      <*> Check.maybe es ["description"] Check.text
      <*> Check.maybe es ["tags"] (Check.list Check.text)
      <*> Check.maybe es ["deprecated"] Check.truth
      <*> Check.maybe es ["external_docs_url"] Check.text
      <*> Check.maybe es ["external_docs_description"] Check.text
      <*> Check.maybe es ["request_body_description"] Check.text
      <*> Check.defaulted es ["request_body_example"] Check.any .null
      <*> Check.maybe es ["request_body_required"] Check.truth
      <*> Check.maybe es ["request_body_schema"] Check.fragment
      <*> Check.maybe es ["response_descriptions"] (Check.table Check.text)
      <*> Check.maybe es ["response_examples"] Check.fragment
      <*> Check.maybe es ["custom_parameters"] (Check.list Check.fragment)
      <*> Check.maybe es ["security_requirements"] (Check.list RequirementObject.check)
      <*> Check.defaulted es ["is_hidden"] Check.truth false
      <*> Check.maybe es ["auto_detected_data"] Check.fragment
      <*> Check.maybe es ["last_scanned_at"] Time.check

/-- The record as a value. -/
def toValue (r : OverrideRecord) : Value :=
  .obj [("http_method", .str r.httpMethod), ("uri", .str r.uri),
    ("route_name", .ofOption r.routeName), ("controller", .ofOption r.controller),
    ("action", .ofOption r.action), ("operation_id", .ofOption r.operationId),
    ("summary", .ofOption r.summary), ("description", .ofOption r.description),
    ("tags", .ofList? .str r.tags), ("deprecated", .ofBool? r.deprecated),
    ("external_docs_url", .ofOption r.externalDocsUrl),
    ("external_docs_description", .ofOption r.externalDocsDescription),
    ("request_body_description", .ofOption r.requestBodyDescription),
    ("request_body_example", r.requestBodyExample),
    ("request_body_required", .ofBool? r.requestBodyRequired),
    ("request_body_schema", .ofFragment? r.requestBodySchema),
    ("response_descriptions", (r.responseDescriptions.map Value.ofTexts).getD .null),
    ("response_examples", .ofFragment? r.responseExamples),
    ("custom_parameters", .ofList? .obj r.customParameters),
    ("security_requirements", .ofList? RequirementObject.toValue r.securityRequirements),
    ("is_hidden", .bool r.isHidden), ("auto_detected_data", .ofFragment? r.autoDetectedData),
    ("last_scanned_at", .ofOption (r.lastScannedAt.map Time.text))]

end OverrideRecord

end RouteDoc
