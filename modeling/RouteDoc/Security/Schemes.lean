import RouteDoc.Config.Basic
/-!
# RouteDoc.Security.Schemes

**The security schemes of a document.** Stored schemes come first, then the configured ones that
are not there yet, then known schemes that operations name without anybody having defined them. A
document always has a scheme.
-/

namespace RouteDoc.SecuritySchemes

/-- The schemes that middleware may stand for without configuration. -/
def known : Table String Fragment :=
  [ ("bearerAuth",
      [("type", .str "http"), ("scheme", .str "bearer"), ("bearerFormat", .str "JWT")]),
    ("basicAuth", [("type", .str "http"), ("scheme", .str "basic")]) ]

/-- Add the configured scheme of a name that is free. -/
def addConfigured (schemes : Table String Fragment) (e : String × SecuritySchemeConfig) :
    Table String Fragment :=
  Table.insertIfNew schemes e.1 (e.2.toRecord e.1 false).toFragment

/-- Add the known scheme of a name that is free. -/
def addKnown (schemes : Table String Fragment) (name : String) : Table String Fragment :=
  match Table.get? known name with
  | some scheme => Table.insertIfNew schemes name scheme
  | none => schemes

/-- The schemes of a document whose operations use the given names. -/
def build (stored : List SecuritySchemeRecord) (configured : Table String SecuritySchemeConfig)
    (used : List String) : Table String Fragment :=
  let schemes := Table.ofEntries (stored.map fun r => (r.name, r.toFragment))
  let schemes := configured.foldl addConfigured schemes
  let schemes := used.foldl addKnown schemes
  if schemes.isEmpty then addKnown schemes "bearerAuth" else schemes

/-- The scheme that a document asks for by default: the first configured one with middleware, else
the first of the document. -/
def defaultName? (configured : Table String SecuritySchemeConfig) (schemes : List String) :
    Option String :=
  match configured.find? fun e => !e.2.middleware.isEmpty with
  | some (name, _) => some name
  | none => schemes.head?

end RouteDoc.SecuritySchemes
