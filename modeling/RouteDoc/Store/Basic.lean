import RouteDoc.Record.Override
import RouteDoc.Record.Schema
import RouteDoc.Record.SecurityScheme
/-!
# RouteDoc.Store.Basic

**Where documentation is kept.** A `MetadataStore` holds route records by method and path, schemas
by name and security schemes by name. Two stores are built on it: one of tables in memory
(`MemoryStore`) and one of numbered rows (`RowStore`); the workflows work on either.
-/

namespace RouteDoc

/-- What a scan notes about a route besides its handler. -/
def scanSnapshot (r : Route) : Fragment :=
  [("middleware", .ofStrings r.middleware),
    ("parameters", .arr (r.parameters.map PathParameter.toValue)),
    ("domain", .ofOption r.domain)]

/-- Write what a scan found into a record; what was written by hand stays. -/
def OverrideRecord.scan (record : OverrideRecord) (r : Route) (time : Time) : OverrideRecord :=
  { record with
    routeName := r.name
    controller := r.controller
    action := r.action
    autoDetectedData := some (scanSnapshot r)
    lastScannedAt := some time }

/-- The record that a scan makes for a route without one. -/
def OverrideRecord.ofScan (r : Route) (time : Time) : OverrideRecord :=
  OverrideRecord.scan { httpMethod := Text.upper r.method, uri := r.path } r time

/-- The record with its method in upper case, as it is kept. -/
def OverrideRecord.normalized (record : OverrideRecord) : OverrideRecord :=
  { record with httpMethod := Text.upper record.httpMethod }

/-- The order in which route records are listed: by path, then by method. -/
def RouteKey.before (a b : RouteKey) : Bool := a.2 < b.2 || (a.2 = b.2 && a.1 ≤ b.1)

/-- A place where documentation is kept. -/
class MetadataStore (σ : Type) where
  /-- All route records, in order of path and method. -/
  listRoutes : σ → List OverrideRecord
  /-- The record of a method and a path. -/
  findRoute : σ → String → String → Option OverrideRecord
  /-- Write what a scan found about a route, and when. -/
  upsertScanned : σ → Route → Time → OverrideRecord × σ
  /-- Write a route record, replacing the one of its method and path. -/
  saveRoute : σ → OverrideRecord → σ
  /-- Remove the record of a method and a path; tells whether there was one. -/
  deleteRoute : σ → String → String → Bool × σ
  /-- Remove all route records; tells how many there were. -/
  clearRoutes : σ → Nat × σ
  /-- All schemas, in order of their names. -/
  listSchemas : σ → List SchemaRecord
  /-- Write a schema, replacing the one of its name. -/
  saveSchema : σ → SchemaRecord → σ
  /-- All security schemes, in the order in which their names were first written. -/
  listSecuritySchemes : σ → List SecuritySchemeRecord
  /-- Write a security scheme, replacing the one of its name. -/
  saveSecurityScheme : σ → SecuritySchemeRecord → σ

end RouteDoc
