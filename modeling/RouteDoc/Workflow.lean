import RouteDoc.Document.Build
import RouteDoc.Document.Statistics
/-!
# RouteDoc.Workflow

**What a user asks for**: to note the live routes in a store, to compare both, to clean the store
up, and to generate a document.

* `scan` writes the handlers of new and changed routes and never touches what was written by hand.
* `sync` reports the drift between inventory and store; on demand it deletes the records of routes
  that are gone, once that is confirmed, and stores the configured security schemes.
* `generate` builds a document with what the store says about it.
-/

namespace RouteDoc.Workflow

variable {σ : Type} [MetadataStore σ]

open MetadataStore

/-! ### Scan -/

/-- What a scan did. -/
structure ScanResult where
  /-- How inventory and store differed. -/
  diff : RouteDiff
  /-- How many records were removed first. -/
  cleared : Nat := 0
  /-- How many records were written. -/
  written : Nat := 0
  /-- Whether nothing was to be written. -/
  dryRun : Bool := false

/-- Write what was found about routes. -/
def upsertAll (store : σ) (routes : List Route) (time : Time) : σ :=
  routes.foldl (fun store r => (upsertScanned store r time).2) store

/-- The routes of a difference that are to be written. -/
def routesToWrite (d : RouteDiff) : List Route := d.new ++ d.updated.map RouteChange.route

/-- Note the live routes in a store, and when that was. A fresh scan removes all records first. -/
def scan (store : σ) (routes : List Route) (time : Time) (fresh dryRun : Bool) : ScanResult × σ :=
  let (cleared, store) := if fresh && !dryRun then clearRoutes store else (0, store)
  let diff := RouteDiff.of routes (if fresh then [] else listRoutes store)
  if dryRun then ({ diff, cleared, dryRun := true }, store)
  else
    let writes := routesToWrite diff
    ({ diff, cleared, written := writes.length }, upsertAll store writes time)

/-! ### Sync -/

/-- What a comparison found and did. -/
structure SyncReport where
  /-- The number of live routes. -/
  liveRoutes : Nat
  /-- The number of stored routes. -/
  storedRoutes : Int
  /-- The number of stored routes about which something is written. -/
  documentedRoutes : Nat
  /-- The records of routes that are gone. -/
  orphaned : List OverrideRecord
  /-- The live routes without a record. -/
  missing : List Route
  /-- The records about which nothing is written. -/
  undocumented : List OverrideRecord
  /-- The number of stored schemas. -/
  storedSchemas : Nat
  /-- The number of stored security schemes. -/
  securitySchemes : Nat
  /-- How many records were deleted. -/
  deleted : Nat := 0
  /-- How many security schemes were written. -/
  securitySchemesWritten : Nat := 0

/-- The counts of a report with their names. -/
def SyncReport.summary (r : SyncReport) : Table String Int :=
  [("live routes", r.liveRoutes), ("stored routes", r.storedRoutes),
    ("documented routes", r.documentedRoutes), ("orphaned routes", r.orphaned.length),
    ("stored schemas", r.storedSchemas), ("security schemes", r.securitySchemes)]

/-- Delete the records of routes, counting those that were there. -/
def deleteAll (store : σ) (records : List OverrideRecord) : Nat × σ :=
  records.foldl (fun (count, store) r =>
    let (found, store) := deleteRoute store r.httpMethod r.uri
    (if found then count + 1 else count, store)) (0, store)

/-- Compare the live routes with a store. `confirm` is asked before anything is deleted. -/
def sync (config : GeneratorConfig) (store : σ) (routes : List Route) (clean initSecurity : Bool)
    (confirm : List OverrideRecord → Bool) : SyncReport × σ :=
  let schemes := if initSecurity then config.securitySchemeRecords else []
  let store := schemes.foldl saveSecurityScheme store
  let persisted := listRoutes store
  let diff := RouteDiff.of routes persisted
  let (deleted, store) :=
    if clean && !diff.removed.isEmpty && confirm diff.removed then deleteAll store diff.removed
    else (0, store)
  ({ liveRoutes := diff.new.length + diff.updated.length + diff.unchanged.length
     storedRoutes := (persisted.length : Int) - deleted
     documentedRoutes := (persisted.filter OverrideRecord.isDocumented).length
     orphaned := diff.removed
     missing := diff.new
     undocumented := undocumented persisted
     storedSchemas := (listSchemas store).length
     securitySchemes := (listSecuritySchemes store).length
     deleted
     securitySchemesWritten := schemes.length }, store)

/-! ### Generate -/

/-- A document with what is reported about it. -/
structure GenerateResult where
  /-- The document. -/
  document : Fragment
  /-- The sizes of its parts. -/
  statistics : Table String Nat
  /-- What could not be understood, by route. -/
  diagnostics : Table String (List String)
  /-- Whether a store answered. -/
  storeAvailable : Bool

/-- Generate the document of the live routes. -/
def generate {τ : Type} (config : GeneratorConfig) (routes : List Route) (store : Option σ)
    (analyze : Analyzer τ) : StateM τ (Except BuildError GenerateResult) := do
  let overrides := Overrides.load store
  match ← Document.build config analyze overrides.records routes with
  | .error e => return .error e
  | .ok document =>
      match Document.statistics (.obj document.content) with
      | .error f => return .error (.fault f)
      | .ok statistics =>
          let result : GenerateResult :=
            { document := document.content, statistics, diagnostics := document.diagnostics,
              storeAvailable := overrides.isAvailable }
          return .ok result

end RouteDoc.Workflow
