import RouteDoc.Store.Basic
import RouteDoc.Store.Diff
/-!
# RouteDoc.Store.Overrides

**What a store says about a document**: one look at its records, which the building of a document
then works with. Without a store there is a reason instead.
-/

namespace RouteDoc

/-- The records that belong to a document. -/
structure OverrideSnapshot where
  /-- Route records by method and path. -/
  routes : Table RouteKey OverrideRecord := []
  /-- Stored schemas. -/
  schemas : List SchemaRecord := []
  /-- Stored security schemes. -/
  securitySchemes : List SecuritySchemeRecord := []
deriving Inhabited

/-- The records of a document, or why there are none. -/
inductive Overrides where
  /-- The store answered. -/
  | snapshot (s : OverrideSnapshot)
  /-- There is no store, or it does not answer. -/
  | unavailable (reason : String)
deriving Inhabited

namespace OverrideSnapshot

/-- The record of a route. -/
def forRoute (s : OverrideSnapshot) (r : Route) : Option OverrideRecord := Table.get? s.routes r.key

end OverrideSnapshot

namespace Overrides

/-- The records to work with; none when there is no store. -/
def records : Overrides → OverrideSnapshot
  | .snapshot s => s
  | .unavailable _ => {}

/-- Whether a store answered. -/
def isAvailable : Overrides → Bool
  | .snapshot _ => true
  | .unavailable _ => false

/-- Look at a store. -/
def load {σ : Type} [MetadataStore σ] : Option σ → Overrides
  | none => .unavailable "no metadata store configured"
  | some store => .snapshot
      { routes := indexRecords (MetadataStore.listRoutes store)
        schemas := MetadataStore.listSchemas store
        securitySchemes := MetadataStore.listSecuritySchemes store }

end Overrides

end RouteDoc
