import RouteDoc.Check.Basic
/-!
# RouteDoc.Record.SecurityScheme

**Stored security schemes.** `SecuritySchemeRecord.toFragment` is the scheme as it stands in a
document: only the fields that belong to its type, with the defaults of that type.
-/

namespace RouteDoc

/-- A stored security scheme. -/
structure SecuritySchemeRecord where
  /-- Its name among the components. -/
  name : String
  /-- The type: `apiKey`, `http`, `oauth2`, `openIdConnect` or another. -/
  type : String
  /-- The name of the key. -/
  apiKeyName : Option String := none
  /-- Where the key is sent. -/
  apiKeyIn : Option String := none
  /-- The scheme of the authorization header. -/
  scheme : Option String := none
  /-- The format of a bearer token. -/
  bearerFormat : Option String := none
  /-- The flows of an authorization server. -/
  flows : Option Fragment := none
  /-- Where an identity provider describes itself. -/
  openIdConnectUrl : Option String := none
  /-- What the scheme is for. -/
  description : Option String := none
  /-- The middleware that stands for it. -/
  middleware : List String := []
  /-- Whether it is the default. -/
  isDefault : Bool := false
deriving DecidableEq, Inhabited

namespace SecuritySchemeRecord

open Text

/-- The fields that belong to the type. -/
def typeFields (r : SecuritySchemeRecord) : Fragment :=
  if r.type = "apiKey" then
    [("name", .str (filledOr "X-API-Key" r.apiKeyName)), ("in", .str (filledOr "header" r.apiKeyIn))]
  else if r.type = "http" then
    ("scheme", .str (filledOr "bearer" r.scheme)) ::
      (match filled? r.bearerFormat with
        | some format => [("bearerFormat", .str format)]
        | none => [])
  else if r.type = "oauth2" then [("flows", .obj (r.flows.getD []))]
  else if r.type = "openIdConnect" then
    [("openIdConnectUrl", .str (filledOr "" r.openIdConnectUrl))]
  else []

/-- The scheme as it stands in a document. -/
def toFragment (r : SecuritySchemeRecord) : Fragment :=
  ("type", .str r.type) ::
    (match filled? r.description with
      | some text => [("description", .str text)]
      | none => [])
    ++ r.typeFields

/-- Check a document against the record. -/
def check : Datum → Checked SecuritySchemeRecord :=
  Check.record fun es =>
    SecuritySchemeRecord.mk
      <$> Check.required es ["name"] Check.text
      <*> Check.required es ["type"] Check.text
      <*> Check.maybe es ["api_key_name"] Check.text
      <*> Check.maybe es ["api_key_in"] Check.text
      <*> Check.maybe es ["scheme"] Check.text
      <*> Check.maybe es ["bearer_format"] Check.text
      <*> Check.maybe es ["flows"] Check.fragment
      <*> Check.maybe es ["open_id_connect_url"] Check.text
      <*> Check.maybe es ["description"] Check.text
      <*> Check.defaulted es ["middleware"] (Check.list Check.text) []
      <*> Check.defaulted es ["is_default"] Check.truth false

/-- The record as a value. -/
def toValue (r : SecuritySchemeRecord) : Value :=
  .obj [("name", .str r.name), ("type", .str r.type), ("api_key_name", .ofOption r.apiKeyName),
    ("api_key_in", .ofOption r.apiKeyIn), ("scheme", .ofOption r.scheme),
    ("bearer_format", .ofOption r.bearerFormat), ("flows", .ofFragment? r.flows),
    ("open_id_connect_url", .ofOption r.openIdConnectUrl),
    ("description", .ofOption r.description), ("middleware", .ofStrings r.middleware),
    ("is_default", .bool r.isDefault)]

end SecuritySchemeRecord

end RouteDoc
