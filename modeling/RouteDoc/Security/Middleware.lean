import RouteDoc.Config.Basic
import RouteDoc.Fault
import RouteDoc.Security.Basic
/-!
# RouteDoc.Security.Middleware

**What middleware means for callers.** Each middleware of a route is a name with parameters. Some
ask for a security scheme, some limit the rate of requests.

* `Middleware.requirement?` takes the first configured scheme that lists the middleware, by its
  full text or by its name; what only looks like authentication gets one of the known schemes.
* `Middleware.rateLimit?` reads the limits. A parameter that counts as digits without being a
  numeral is a fault.
* `MiddlewareAnalysis.of` collects both for all middleware of a route; the last rate limit counts.
-/

namespace RouteDoc

open Text
open Number

/-- A middleware of a route. -/
structure Middleware where
  /-- What stands before the first colon. -/
  name : String
  /-- The whole text. -/
  full : String
  /-- The parameters, between commas. -/
  parameters : List String := []
deriving DecidableEq, Repr, Inhabited

namespace Middleware

/-- Read a middleware. -/
def parse (s : String) : Middleware :=
  match cut? ':' s with
  | some (name, parameters) =>
      ⟨trim name, s, ((split ',' parameters).filter fun p => !isBlankText p).map trim⟩
  | none => ⟨trim s, s, []⟩

/-- Middleware that asks callers to identify themselves. -/
def authNames : List String :=
  ["auth", "auth.basic", "auth.session", "verified", "can", "ability", "abilities", "scope",
   "scopes", "jwt.auth", "jwt.verify", "passport"]

/-- Middleware whose parameters are scopes. -/
def scopedNames : List String := ["scope", "scopes", "ability", "abilities", "can"]

/-- Middleware that limits the rate of requests. -/
def rateLimitNames : List String := ["throttle", "rate", "ratelimit"]

/-- The scopes that a middleware asks for. -/
def scopes (m : Middleware) : List String := if m.name ∈ scopedNames then m.parameters else []

/-- Whether a configured scheme lists the middleware. -/
def isListedBy (m : Middleware) (scheme : SecuritySchemeConfig) : Bool :=
  m.full ∈ scheme.middleware || m.name ∈ scheme.middleware

/-- The scheme of a middleware that no configured scheme lists. -/
def inferredScheme (m : Middleware) : String :=
  if contains m.name "basic" then "basicAuth" else "bearerAuth"

/-- The security requirement of a middleware. -/
def requirement? (schemes : Table String SecuritySchemeConfig) (m : Middleware) :
    Option SecurityRequirement :=
  match schemes.find? fun e => m.isListedBy e.2 with
  | some (name, _) => some ⟨name, m.scopes⟩
  | none =>
      if m.name ∈ authNames || startsWith m.name "auth" then some ⟨m.inferredScheme, m.scopes⟩
      else none

/-- Read a parameter that counts as digits. -/
def readCount (s : String) : Except Fault Int :=
  match readInt? s with
  | some n => .ok n
  | none =>
      if maxDigits < s.toList.length then .error (.numeralTooLong s.toList.length)
      else .error (.notInteger s)

/-- The rate limit of a middleware. -/
def rateLimit? (m : Middleware) : Except Fault (Option RateLimit) :=
  if m.name ∉ rateLimitNames then .ok none
  else match m.parameters with
    | [] => .ok (some {})
    | [a] =>
        if isDigits a then do
          return some { requests := some (← readCount a), perSeconds := some 60 }
        else .ok (some { limiter := some a })
    | a :: b :: _ =>
        if isDigits a && isDigits b then do
          let requests ← readCount a
          let minutes ← readCount b
          return some { requests := some requests, perSeconds := some (minutes * 60) }
        else if isDigits a then .ok (some {})
        else .ok (some { limiter := some a })

end Middleware

/-- What all middleware of a route means. -/
structure MiddlewareAnalysis where
  /-- The security requirements, in order. -/
  security : List SecurityRequirement := []
  /-- The last rate limit. -/
  rateLimit : Option RateLimit := none
deriving DecidableEq, Inhabited

namespace MiddlewareAnalysis

/-- Add a middleware. -/
def add (schemes : Table String SecuritySchemeConfig) (a : MiddlewareAnalysis) (s : String) :
    Except Fault MiddlewareAnalysis := do
  let m := Middleware.parse s
  let limit ← m.rateLimit?
  return { security := a.security ++ (m.requirement? schemes).toList
           rateLimit := limit <|> a.rateLimit }

/-- What the middleware of a route means. -/
def of (schemes : Table String SecuritySchemeConfig) (middleware : List String) :
    Except Fault MiddlewareAnalysis :=
  middleware.foldlM (add schemes) {}

end MiddlewareAnalysis

/-- The headers by which a response tells about a rate limit. -/
def RateLimit.headers (limit : Option RateLimit) : Fragment :=
  match limit.bind RateLimit.requests with
  | none => []
  | some n =>
      if n = 0 then []
      else
        [ ("X-RateLimit-Limit", .obj [
            ("description", .str "The maximum number of requests allowed"),
            ("schema", .obj [("type", .str "integer")]),
            ("example", .int n) ]),
          ("X-RateLimit-Remaining", .obj [
            ("description", .str "The number of remaining requests"),
            ("schema", .obj [("type", .str "integer")]) ]) ]

end RouteDoc
