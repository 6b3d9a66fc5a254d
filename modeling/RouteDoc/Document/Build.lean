import RouteDoc.Operation.Assembly
import RouteDoc.Security.Schemes
import RouteDoc.Store.Overrides
/-!
# RouteDoc.Document.Build

**From routes to a document.** The visible routes of an inventory become operations one after the
other; the schemas, tags and security schemes that they use are collected on the way and make up
the rest of the document.

* An `Analyzer` says what the sources tell about a route; a failure of it is noted among the
  diagnostics of that route and does not stop the others.
* Middleware whose rate limit cannot be read, and query parameters that make no parameter, stop
  the building (`BuildError`).
* Hidden routes are left out before anything else is looked at.
-/

namespace RouteDoc

/-- What the sources tell about a route, with a state between the routes. -/
abbrev Analyzer (σ : Type) := Route → StateM σ (Except String Detection)

/-- Why a document cannot be built. -/
inductive BuildError where
  /-- A value cannot be worked with. -/
  | fault (f : Fault)
  /-- A parameter makes no record. -/
  | invalid (issues : List Issue)
deriving DecidableEq

/-- The error in words. -/
def BuildError.message : BuildError → String
  | .fault f => f.message
  | .invalid issues => issueText issues

/-- A document under construction. -/
structure Draft where
  /-- Schemas and identifiers. -/
  assembler : Assembler := {}
  /-- The operations by path and method. -/
  paths : Table String Fragment := []
  /-- The tags, in the order of their first use. -/
  tags : List String := []
  /-- The names of the security schemes that operations use. -/
  usedSchemes : List String := []
  /-- What could not be understood, by route. -/
  diagnostics : Table String (List String) := []
deriving Inhabited

/-- A finished document. -/
structure Document where
  /-- The document. -/
  content : Fragment
  /-- What could not be understood, by route. -/
  diagnostics : Table String (List String)

namespace Document

/-- Add those texts that are not there yet. -/
def addNew (old new : List String) : List String :=
  new.foldl (fun acc s => if s ∈ acc then acc else acc ++ [s]) old

/-- The visible routes with their records. -/
def visibleRoutes (s : OverrideSnapshot) (routes : List Route) :
    List (Route × Option OverrideRecord) :=
  ((Table.values (indexRoutes routes)).map fun r => (r, s.forRoute r)).filter fun e =>
    !(e.2.map OverrideRecord.isHidden).getD false

/-- The identifiers that stored records ask for. -/
def requestedIds (visible : List (Route × Option OverrideRecord)) : List String :=
  visible.filterMap fun e => Text.filled? (e.2.bind OverrideRecord.operationId)

/-- What is known about a route from an analysis, with its failure as a diagnostic. -/
def detected : Except String Detection → Detection
  | .ok d => d
  | .error text => { diagnostics := ["analysis failed: " ++ text] }

/-- The name of a route in diagnostics. -/
def routeLabel (r : Route) : String := Text.upper r.method ++ " " ++ r.path

/-- Put a finished operation into a draft. -/
def addOperation (draft : Draft) (o : Operation) (assembler : Assembler) : Draft :=
  let rendered := o.toFragment
  let methods := (Table.get? draft.paths o.path).getD []
  { draft with
    assembler := { assembler with registry := assembler.registry.note (.obj rendered) }
    paths := Table.insert draft.paths o.path (Table.insert methods o.method (.obj rendered))
    tags := addNew draft.tags o.tags
    usedSchemes := addNew draft.usedSchemes ((o.security.getD []).flatMap Table.keys) }

/-- What is known about a route, from an analysis and from its middleware. -/
def detect (config : GeneratorConfig) (r : Route) (analysis : Except String Detection) :
    Except BuildError Detection :=
  match MiddlewareAnalysis.of config.securitySchemes r.middleware with
  | .error f => .error (.fault f)
  | .ok m => .ok { detected analysis with security := m.security, rateLimit := m.rateLimit }

/-- Keep what could not be understood about a route. -/
def noteDiagnostics (draft : Draft) (r : Route) (d : Detection) : Draft :=
  if d.diagnostics.isEmpty then draft
  else { draft with
    diagnostics := Table.insert draft.diagnostics (routeLabel r) d.diagnostics }

/-- Put a route into a draft, given what an analysis said; the operation that was put together comes
along. -/
def addRoute (config : GeneratorConfig) (draft : Draft) (r : Route)
    (record : Option OverrideRecord) (analysis : Except String Detection) :
    Except BuildError (Operation × Draft) :=
  match detect config r analysis with
  | .error e => .error e
  | .ok d =>
      match Assembler.assemble config draft.assembler r d record with
      | (.error issues, _) => .error (.invalid issues)
      | (.ok o, assembler) => .ok (o, addOperation (noteDiagnostics draft r d) o assembler)

/-- Put routes into a draft one after the other. -/
def addRoutes {σ : Type} (config : GeneratorConfig) (analyze : Analyzer σ) (draft : Draft) :
    List (Route × Option OverrideRecord) → StateM σ (Except BuildError Draft)
  | [] => return .ok draft
  | (r, record) :: rest => do
      let analysis ← analyze r
      match addRoute config draft r record analysis with
      | .error e => return .error e
      | .ok (_, draft) => addRoutes config analyze draft rest

/-- The parts of a document that all operations share. -/
def finish (config : GeneratorConfig) (s : OverrideSnapshot) (draft : Draft) :
    Except BuildError Document :=
  match draft.assembler.registry.build with
  | (_, some f) => .error (.fault f)
  | (registry, none) =>
      let schemes := SecuritySchemes.build s.securitySchemes config.securitySchemes
        (Schema.sortedNames draft.usedSchemes)
      let components : Fragment :=
        (if registry.schemas.isEmpty then [] else [("schemas", .obj registry.schemas)])
          ++ [("securitySchemes", .obj (Table.mapValues .obj schemes))]
      let security : Fragment :=
        match SecuritySchemes.defaultName? config.securitySchemes (Table.keys schemes) with
        | some name => [("security", .arr [RequirementObject.toValue [(name, [])]])]
        | none => []
      let tags : Fragment :=
        if draft.tags.isEmpty then []
        else [("tags", .arr (draft.tags.map fun tag => .obj
          [("name", .str tag), ("description", .str ("Operations related to " ++ tag))]))]
      .ok {
        content :=
          [ ("openapi", .str config.openapiVersion),
            ("info", .obj config.info.toFragment),
            ("servers", .arr (config.servers.map fun server => .obj server.toFragment)),
            ("paths", .obj (Table.mapValues .obj draft.paths)),
            ("components", .obj components) ] ++ security ++ tags
        diagnostics := draft.diagnostics }

/-- What a draft starts with. -/
def start (s : OverrideSnapshot) (visible : List (Route × Option OverrideRecord)) : Draft :=
  { assembler :=
      { registry := { external := s.schemas }
        ids := OperationIds.reserve {} (requestedIds visible) } }

/-- Build the document of the given routes. -/
def build {σ : Type} (config : GeneratorConfig) (analyze : Analyzer σ) (s : OverrideSnapshot)
    (routes : List Route) : StateM σ (Except BuildError Document) := do
  let visible := visibleRoutes s routes
  match ← addRoutes config analyze (start s visible) visible with
  | .error e => return .error e
  | .ok draft => return finish config s draft

/-- The analyzer that finds nothing. -/
def noAnalysis : Analyzer Unit := fun _ => return .ok {}

end Document

end RouteDoc
