import RouteDoc.Record.Override
/-!
# RouteDoc.Security.Basic

**What a route asks of its callers**: security requirements, and a limit on the rate of requests.
-/

namespace RouteDoc

/-- A scheme that callers must satisfy, with scopes. -/
structure SecurityRequirement where
  /-- The name of the scheme. -/
  scheme : String
  /-- The scopes. -/
  scopes : List String := []
deriving DecidableEq, Inhabited

namespace SecurityRequirement

/-- The requirement as an object of a document. -/
def toObject (r : SecurityRequirement) : RequirementObject := [(r.scheme, r.scopes)]

/-- Check a document against the record. -/
def check : Datum → Checked SecurityRequirement :=
  Check.record fun es =>
    SecurityRequirement.mk
      <$> Check.required es ["scheme"] Check.text
      <*> Check.defaulted es ["scopes"] (Check.list Check.text) []

/-- The record as a value. -/
def toValue (r : SecurityRequirement) : Value :=
  .obj [("scheme", .str r.scheme), ("scopes", .ofStrings r.scopes)]

end SecurityRequirement

/-- A limit on the rate of requests. -/
structure RateLimit where
  /-- How many requests are allowed. -/
  requests : Option Int := none
  /-- In how many seconds. -/
  perSeconds : Option Int := none
  /-- The named limiter that decides instead. -/
  limiter : Option String := none
deriving DecidableEq, Inhabited

namespace RateLimit

/-- Check a document against the record. -/
def check : Datum → Checked RateLimit :=
  Check.record fun es =>
    RateLimit.mk
      <$> Check.maybe es ["requests"] Check.integer
      <*> Check.maybe es ["per_seconds"] Check.integer
      <*> Check.maybe es ["limiter"] Check.text

/-- The record as a value. -/
def toValue (r : RateLimit) : Value :=
  .obj [("requests", .ofInt? r.requests), ("per_seconds", .ofInt? r.perSeconds),
    ("limiter", .ofOption r.limiter)]

end RateLimit

end RouteDoc
