import RouteDoc.Store.Basic
/-!
# RouteDoc.Store.Memory

**A store of tables.** Records are kept by key and are replaced as a whole. The lemmas at the end say
which record is found after each operation on routes.
-/

namespace RouteDoc

/-- Documentation kept in tables. -/
structure MemoryStore where
  /-- Route records by method and path. -/
  routes : Table RouteKey OverrideRecord := []
  /-- Schemas by name. -/
  schemas : Table String SchemaRecord := []
  /-- Security schemes by name. -/
  securitySchemes : Table String SecuritySchemeRecord := []
deriving Inhabited

namespace MemoryStore

/-- All route records, in order of path and method. -/
def listRoutes (s : MemoryStore) : List OverrideRecord :=
  Table.values (s.routes.mergeSort fun a b => RouteKey.before a.1 b.1)

/-- The record of a method and a path. -/
def findRoute (s : MemoryStore) (method uri : String) : Option OverrideRecord :=
  Table.get? s.routes (.of method uri)

/-- Write what a scan found about a route, and when. -/
def upsertScanned (s : MemoryStore) (r : Route) (time : Time) : OverrideRecord × MemoryStore :=
  let record := match Table.get? s.routes r.key with
    | some record => record.scan r time
    | none => .ofScan r time
  (record, { s with routes := Table.insert s.routes r.key record })

/-- Write a route record. -/
def saveRoute (s : MemoryStore) (record : OverrideRecord) : MemoryStore :=
  { s with routes := Table.insert s.routes record.key record.normalized }

/-- Remove the record of a method and a path. -/
def deleteRoute (s : MemoryStore) (method uri : String) : Bool × MemoryStore :=
  let key := RouteKey.of method uri
  (Table.has s.routes key, { s with routes := Table.erase s.routes key })

/-- Remove all route records. -/
def clearRoutes (s : MemoryStore) : Nat × MemoryStore := (s.routes.length, { s with routes := [] })

/-- All schemas, in order of their names. -/
def listSchemas (s : MemoryStore) : List SchemaRecord :=
  Table.values (s.schemas.mergeSort fun a b => decide (a.1 ≤ b.1))

/-- Write a schema. -/
def saveSchema (s : MemoryStore) (r : SchemaRecord) : MemoryStore :=
  { s with schemas := Table.insert s.schemas r.name r }

/-- All security schemes. -/
def listSecuritySchemes (s : MemoryStore) : List SecuritySchemeRecord :=
  Table.values s.securitySchemes

/-- Write a security scheme. -/
def saveSecurityScheme (s : MemoryStore) (r : SecuritySchemeRecord) : MemoryStore :=
  { s with securitySchemes := Table.insert s.securitySchemes r.name r }

instance : MetadataStore MemoryStore where
  listRoutes := listRoutes
  findRoute := findRoute
  upsertScanned := upsertScanned
  saveRoute := saveRoute
  deleteRoute := deleteRoute
  clearRoutes := clearRoutes
  listSchemas := listSchemas
  saveSchema := saveSchema
  listSecuritySchemes := listSecuritySchemes
  saveSecurityScheme := saveSecurityScheme

/-! ### Finding records after writing -/

theorem findRoute_saveRoute (s : MemoryStore) (record : OverrideRecord) (method uri : String) :
    (s.saveRoute record).findRoute method uri =
      if record.key = .of method uri then some record.normalized
      else s.findRoute method uri := by
  simp [findRoute, saveRoute, Table.get?_insert]

theorem findRoute_upsertScanned (s : MemoryStore) (r : Route) (time : Time) (method uri : String) :
    (s.upsertScanned r time).2.findRoute method uri =
      if r.key = .of method uri then some (s.upsertScanned r time).1
      else s.findRoute method uri := by
  simp [findRoute, upsertScanned, Table.get?_insert]

theorem findRoute_deleteRoute_of_ne (s : MemoryStore) {method uri method' uri' : String}
    (h : RouteKey.of method uri ≠ .of method' uri') :
    (s.deleteRoute method uri).2.findRoute method' uri' = s.findRoute method' uri' := by
  simp [findRoute, deleteRoute, Table.get?_erase_of_ne _ h]

theorem findRoute_deleteRoute_self (s : MemoryStore) (method uri : String)
    (h : (Table.keys s.routes).Nodup) :
    (s.deleteRoute method uri).2.findRoute method uri = none := by
  simp [findRoute, deleteRoute, Table.get?_erase_self _ h]

theorem findRoute_clearRoutes (s : MemoryStore) (method uri : String) :
    s.clearRoutes.2.findRoute method uri = none := rfl

end MemoryStore

end RouteDoc
