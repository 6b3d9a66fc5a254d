import RouteDoc.Store.Basic
/-!
# RouteDoc.Store.Rows

**A store of numbered rows.** Every record is a row with a number of its own. To write a record, its
row is looked for and changed, or a new row is put behind the others.

* Rows keep their place, so the order of the numbers is the order of first insertion.
* A schema without any key comes back as a plain object (`RowStore.schemaOfRow`).
* Columns give back what was written into them, but a time may lose something on the way: what
  comes back of it is the matter of the engine behind the store.
-/

namespace RouteDoc

/-- A row: a number and its columns. -/
structure Row (α : Type) where
  /-- The number of the row. -/
  id : Nat
  /-- What the row holds. -/
  columns : α
deriving DecidableEq

/-- Rows with the number of the next one. -/
structure Rows (α : Type) where
  /-- The rows, in order of their numbers. -/
  rows : List (Row α) := []
  /-- The number of the next row. -/
  next : Nat := 1
deriving Inhabited

namespace Rows

variable {α : Type}

/-- The first row whose columns satisfy a condition. -/
def find? (t : Rows α) (p : α → Bool) : Option (Row α) := t.rows.find? fun row => p row.columns

/-- Put a new row behind the others. -/
def append (t : Rows α) (columns : α) : Rows α :=
  { rows := t.rows ++ [⟨t.next, columns⟩], next := t.next + 1 }

/-- Change the columns of the row with a number. -/
def update (t : Rows α) (id : Nat) (f : α → α) : Rows α :=
  { t with rows := t.rows.map fun row => if row.id = id then { row with columns := f row.columns }
      else row }

/-- Remove the rows whose columns satisfy a condition. -/
def delete (t : Rows α) (p : α → Bool) : Nat × Rows α :=
  ((t.rows.filter fun row => p row.columns).length,
    { t with rows := t.rows.filter fun row => !p row.columns })

/-- Change the row that satisfies a condition, or put a new one behind the others. -/
def upsert (t : Rows α) (p : α → Bool) (new : α) (f : α → α) : Rows α :=
  match t.find? p with
  | some row => t.update row.id f
  | none => t.append new

/-- The columns of all rows, in order of their numbers. -/
def all (t : Rows α) : List α := t.rows.map Row.columns

end Rows

/-- Documentation kept in rows. -/
structure RowStore where
  /-- Route records. -/
  routes : Rows OverrideRecord := {}
  /-- Schemas. -/
  schemas : Rows SchemaRecord := {}
  /-- Security schemes. -/
  securitySchemes : Rows SecuritySchemeRecord := {}
  /-- What comes back of a time. -/
  timeOfColumn : Time → Time := id
deriving Inhabited

/-- The record with another time of its last scan, if it had one. -/
def OverrideRecord.mapTime (f : Time → Time) (record : OverrideRecord) : OverrideRecord :=
  { record with lastScannedAt := record.lastScannedAt.map f }

namespace RowStore

/-- Whether a row belongs to a method and a path. -/
def isFor (method uri : String) (r : OverrideRecord) : Bool :=
  r.httpMethod = Text.upper method && r.uri = uri

/-- The schema record that a row stands for. -/
def schemaOfRow (r : SchemaRecord) : SchemaRecord :=
  if r.schema.isEmpty then { r with schema := [("type", .str "object")] } else r

/-- The route record that a row stands for. -/
def routeOfRow (s : RowStore) (r : OverrideRecord) : OverrideRecord := r.mapTime s.timeOfColumn

/-- All route records, in order of path and method. -/
def listRoutes (s : RowStore) : List OverrideRecord :=
  (s.routes.all.mergeSort fun a b =>
    RouteKey.before (a.httpMethod, a.uri) (b.httpMethod, b.uri)).map s.routeOfRow

/-- The record of a method and a path. -/
def findRoute (s : RowStore) (method uri : String) : Option OverrideRecord :=
  (s.routes.find? (isFor method uri)).map fun row => s.routeOfRow row.columns

/-- Write what a scan found about a route, and when. -/
def upsertScanned (s : RowStore) (r : Route) (time : Time) : OverrideRecord × RowStore :=
  let s := { s with
    routes := s.routes.upsert (isFor r.method r.path) (.ofScan r time) fun old => old.scan r time }
  ((s.findRoute r.method r.path).getD (.ofScan r time), s)

/-- Write a route record. -/
def saveRoute (s : RowStore) (record : OverrideRecord) : RowStore :=
  { s with
    routes := s.routes.upsert (isFor record.httpMethod record.uri) record.normalized
      fun _ => record.normalized }

/-- Remove the record of a method and a path. -/
def deleteRoute (s : RowStore) (method uri : String) : Bool × RowStore :=
  let (count, routes) := s.routes.delete (isFor method uri)
  (count ≠ 0, { s with routes })

/-- Remove all route records. -/
def clearRoutes (s : RowStore) : Nat × RowStore :=
  let (count, routes) := s.routes.delete fun _ => true
  (count, { s with routes })

/-- All schemas, in order of their names. -/
def listSchemas (s : RowStore) : List SchemaRecord :=
  (s.schemas.all.mergeSort fun a b => decide (a.name ≤ b.name)).map schemaOfRow

/-- Write a schema. -/
def saveSchema (s : RowStore) (r : SchemaRecord) : RowStore :=
  { s with schemas := s.schemas.upsert (·.name = r.name) r fun _ => r }

/-- All security schemes. -/
def listSecuritySchemes (s : RowStore) : List SecuritySchemeRecord := s.securitySchemes.all

/-- Write a security scheme. -/
def saveSecurityScheme (s : RowStore) (r : SecuritySchemeRecord) : RowStore :=
  { s with securitySchemes := s.securitySchemes.upsert (·.name = r.name) r fun _ => r }

instance : MetadataStore RowStore where
  listRoutes := listRoutes
  findRoute := findRoute
  upsertScanned := upsertScanned
  saveRoute := saveRoute
  deleteRoute := deleteRoute
  clearRoutes := clearRoutes
  listSchemas := listSchemas
  saveSchema := saveSchema
  listSecuritySchemes := listSecuritySchemes
  saveSecurityScheme := saveSecurityScheme

end RowStore

end RouteDoc
