import RouteDoc.Proofs.Store.Diff
import RouteDoc.Proofs.Store.Rows
import RouteDoc.Store.Memory
/-!
# RouteDoc.Proofs.Store.Sessions

**Two stores, one behaviour.** A session is a list of operations, each with its answer. A store of
rows and a store of tables that hold the same records (`Alike`) answer alike and stay alike, so two
empty stores answer every session in the same way, but for one thing: a schema without any key comes
back from its row as a plain object (`session_rows`). Times are left aside: whatever the engine behind
the rows makes of a time, the answers of the tables are told with times of that kind
(`StoreAnswer.mapTimes`).

* `StoreUse.run` is one operation on any store.
* `Alike.step` is the square for one operation; the tables of a store are related one by one, by
  `Rows.Holds`.
* `mem_listSchemas_after` says which schemas a session leaves: for each name the last one saved.
-/

namespace RouteDoc

/-! ### Sessions -/

/-- A use of a store. -/
inductive StoreUse where
  | listRoutes
  | findRoute (method uri : String)
  | upsertScanned (r : Route) (time : Time)
  | saveRoute (record : OverrideRecord)
  | deleteRoute (method uri : String)
  | clearRoutes
  | listSchemas
  | saveSchema (record : SchemaRecord)
  | listSecuritySchemes
  | saveSecurityScheme (record : SecuritySchemeRecord)

/-- What a store answers. -/
inductive StoreAnswer where
  | routes (records : List OverrideRecord)
  | route (record : Option OverrideRecord)
  | scanned (record : OverrideRecord)
  | deleted (found : Bool)
  | cleared (count : Nat)
  | schemas (records : List SchemaRecord)
  | securitySchemes (records : List SecuritySchemeRecord)
  /-- Something was saved, and nothing is said about it. -/
  | saved
deriving DecidableEq

namespace StoreUse

variable {σ : Type} [MetadataStore σ]

/-- Use a store. -/
def run (s : σ) : StoreUse → StoreAnswer × σ
  | listRoutes => (.routes (MetadataStore.listRoutes s), s)
  | findRoute method uri => (.route (MetadataStore.findRoute s method uri), s)
  | upsertScanned r time =>
      let (record, s) := MetadataStore.upsertScanned s r time
      (.scanned record, s)
  | saveRoute record => (.saved, MetadataStore.saveRoute s record)
  | deleteRoute method uri =>
      let (found, s) := MetadataStore.deleteRoute s method uri
      (.deleted found, s)
  | clearRoutes =>
      let (count, s) := MetadataStore.clearRoutes s
      (.cleared count, s)
  | listSchemas => (.schemas (MetadataStore.listSchemas s), s)
  | saveSchema record => (.saved, MetadataStore.saveSchema s record)
  | listSecuritySchemes => (.securitySchemes (MetadataStore.listSecuritySchemes s), s)
  | saveSecurityScheme record => (.saved, MetadataStore.saveSecurityScheme s record)

/-- The schema that is saved. -/
def schema? : StoreUse → Option SchemaRecord
  | saveSchema record => some record
  | _ => none

end StoreUse

section

variable {σ : Type} [MetadataStore σ]

/-- The answers to a list of uses, one after the other. -/
def session (s : σ) : List StoreUse → List StoreAnswer
  | [] => []
  | use :: rest => (use.run s).1 :: session (use.run s).2 rest

/-- The store after a list of uses. -/
def storeAfter (s : σ) (uses : List StoreUse) : σ := uses.foldl (fun s use => (use.run s).2) s

/-- An answer of a session is the one to some use, by the store that the earlier uses leave. -/
theorem mem_session {s : σ} {uses : List StoreUse} {a : StoreAnswer} :
    a ∈ session s uses ↔
      ∃ before use after, uses = before ++ use :: after ∧ a = (use.run (storeAfter s before)).1 := by
  induction uses generalizing s with
  | nil => simp [session]
  | cons use rest ih =>
      rw [session, List.mem_cons, ih]
      constructor
      · rintro (rfl | ⟨before, other, after, rfl, rfl⟩)
        · exact ⟨[], use, rest, rfl, rfl⟩
        · exact ⟨use :: before, other, after, rfl, rfl⟩
      · rintro ⟨before, other, after, hsplit, rfl⟩
        cases before with
        | nil =>
            obtain ⟨rfl, rfl⟩ := List.cons.inj hsplit
            exact .inl rfl
        | cons first before =>
            obtain ⟨rfl, rfl⟩ := List.cons.inj hsplit
            exact .inr ⟨before, other, after, rfl, rfl⟩

end

/-! ### One operation on two stores -/

/-- The key of a route record as it is kept. -/
def OverrideRecord.storedKey (record : OverrideRecord) : RouteKey := (record.httpMethod, record.uri)

/-- A store of tables and a store of rows hold the same. -/
structure Alike (m : MemoryStore) (r : RowStore) : Prop where
  routes : r.routes.Holds OverrideRecord.storedKey m.routes
  schemas : r.schemas.Holds SchemaRecord.name m.schemas
  securitySchemes : r.securitySchemes.Holds SecuritySchemeRecord.name m.securitySchemes

theorem alike_empty (timeOfColumn : Time → Time) : Alike {} { timeOfColumn } where
  routes := Rows.holds_nil _ _
  schemas := Rows.holds_nil _ _
  securitySchemes := Rows.holds_nil _ _

/-- An answer with other times. -/
def StoreAnswer.mapTimes (f : Time → Time) : StoreAnswer → StoreAnswer
  | routes records => routes (records.map (OverrideRecord.mapTime f))
  | route record => route (record.map (OverrideRecord.mapTime f))
  | scanned record => scanned (record.mapTime f)
  | answer => answer

/-- An answer as it comes from rows, times aside. -/
def StoreAnswer.fromRows : StoreAnswer → StoreAnswer
  | schemas records => schemas (records.map RowStore.schemaOfRow)
  | answer => answer

theorem RowStore.isFor_iff (method uri : String) (record : OverrideRecord) :
    isFor method uri record = true ↔ record.storedKey = RouteKey.of method uri := by
  simp [isFor, OverrideRecord.storedKey, RouteKey.of]

/-- No use changes what comes back of a time. -/
theorem RowStore.timeOfColumn_run (r : RowStore) (use : StoreUse) :
    (use.run r).2.timeOfColumn = r.timeOfColumn := by
  cases use <;> rfl

namespace Alike

variable {m : MemoryStore} {r : RowStore} (h : Alike m r)

include h

theorem listRoutes : r.listRoutes = m.listRoutes.map r.routeOfRow := by
  unfold RowStore.listRoutes MemoryStore.listRoutes
  rw [h.routes.all, Table.values, Table.values]
  -- the keys of the entries are those of their records, so both are sorted alike
  refine congrArg _ (List.map_mergeSort fun a ha b hb => ?_).symm
  rw [h.routes.key_eq ha, h.routes.key_eq hb]
  rfl

theorem findRoute (method uri : String) :
    r.findRoute method uri = (m.findRoute method uri).map r.routeOfRow := by
  have hfind := h.routes.find? (RowStore.isFor_iff method uri)
  rw [MemoryStore.findRoute, ← hfind, Option.map_map]
  rfl

theorem saveRoute (record : OverrideRecord) : Alike (m.saveRoute record) (r.saveRoute record) :=
  { h with routes := h.routes.replace (RowStore.isFor_iff _ _) record.normalized rfl }

theorem upsertScanned (route : Route) (time : Time) :
    (r.upsertScanned route time).1 = r.routeOfRow (m.upsertScanned route time).1 ∧
      Alike (m.upsertScanned route time).2 (r.upsertScanned route time).2 := by
  have hroutes := h.routes.upsert (RowStore.isFor_iff route.method route.path) (.ofScan route time)
    (fun old => old.scan route time) rfl fun _ hkey => hkey
  have hvalue : ((m.routes.get? (RouteKey.of route.method route.path)).map
      fun old => old.scan route time).getD (.ofScan route time) =
        (m.upsertScanned route time).1 := by
    unfold MemoryStore.upsertScanned Route.key
    cases m.routes.get? (RouteKey.of route.method route.path) <;> rfl
  rw [hvalue] at hroutes
  have halike : Alike (m.upsertScanned route time).2 (r.upsertScanned route time).2 :=
    { h with routes := hroutes }
  refine ⟨?_, halike⟩
  -- the rows are read again for the answer, and hold what was just written
  have hread := halike.findRoute route.method route.path
  rw [MemoryStore.findRoute_upsertScanned, Route.key, if_pos rfl] at hread
  exact congrArg (Option.getD · (.ofScan route time)) hread

theorem deleteRoute (method uri : String) :
    (r.deleteRoute method uri).1 = (m.deleteRoute method uri).1 ∧
      Alike (m.deleteRoute method uri).2 (r.deleteRoute method uri).2 := by
  obtain ⟨hroutes, hcount⟩ := h.routes.delete (RowStore.isFor_iff method uri)
  refine ⟨?_, { h with routes := hroutes }⟩
  change decide ((r.routes.delete (RowStore.isFor method uri)).1 ≠ 0) = _
  rw [hcount, MemoryStore.deleteRoute]
  cases Table.has m.routes (RouteKey.of method uri) <;> rfl

theorem clearRoutes :
    r.clearRoutes.1 = m.clearRoutes.1 ∧ Alike m.clearRoutes.2 r.clearRoutes.2 := by
  have hnone : r.clearRoutes.2.routes = { rows := [], next := r.routes.next } := by
    simp [RowStore.clearRoutes, Rows.delete]
  constructor
  · have hlength := congrArg List.length h.routes.table
    simp [Rows.byKey] at hlength
    simp [RowStore.clearRoutes, Rows.delete, MemoryStore.clearRoutes, hlength]
  · refine { h with routes := ?_ }
    rw [hnone]
    exact Rows.holds_nil _ _

theorem listSchemas : r.listSchemas = m.listSchemas.map RowStore.schemaOfRow := by
  unfold RowStore.listSchemas MemoryStore.listSchemas
  rw [h.schemas.all, Table.values, Table.values]
  refine congrArg _ (List.map_mergeSort fun a ha b hb => ?_).symm
  rw [h.schemas.key_eq ha, h.schemas.key_eq hb]

theorem saveSchema (record : SchemaRecord) :
    Alike (m.saveSchema record) (r.saveSchema record) :=
  { h with schemas := h.schemas.replace (fun _ => decide_eq_true_iff) record rfl }

theorem listSecuritySchemes : r.listSecuritySchemes = m.listSecuritySchemes :=
  h.securitySchemes.all

theorem saveSecurityScheme (record : SecuritySchemeRecord) :
    Alike (m.saveSecurityScheme record) (r.saveSecurityScheme record) :=
  { h with
    securitySchemes := h.securitySchemes.replace (fun _ => decide_eq_true_iff) record rfl }

/-- **The square for one operation**: alike stores answer alike and stay alike. -/
theorem step (use : StoreUse) :
    (use.run r).1 = ((use.run m).1.mapTimes r.timeOfColumn).fromRows ∧
      Alike (use.run m).2 (use.run r).2 := by
  cases use with
  | listRoutes => exact ⟨congrArg StoreAnswer.routes h.listRoutes, h⟩
  | findRoute method uri => exact ⟨congrArg StoreAnswer.route (h.findRoute method uri), h⟩
  | upsertScanned route time =>
      obtain ⟨hanswer, hafter⟩ := h.upsertScanned route time
      exact ⟨congrArg StoreAnswer.scanned hanswer, hafter⟩
  | saveRoute record => exact ⟨rfl, h.saveRoute record⟩
  | deleteRoute method uri =>
      obtain ⟨hanswer, hafter⟩ := h.deleteRoute method uri
      exact ⟨congrArg StoreAnswer.deleted hanswer, hafter⟩
  | clearRoutes =>
      obtain ⟨hanswer, hafter⟩ := h.clearRoutes
      exact ⟨congrArg StoreAnswer.cleared hanswer, hafter⟩
  | listSchemas => exact ⟨congrArg StoreAnswer.schemas h.listSchemas, h⟩
  | saveSchema record => exact ⟨rfl, h.saveSchema record⟩
  | listSecuritySchemes => exact ⟨congrArg StoreAnswer.securitySchemes h.listSecuritySchemes, h⟩
  | saveSecurityScheme record => exact ⟨rfl, h.saveSecurityScheme record⟩

/-- Alike stores stay alike over a whole session. -/
theorem after (uses : List StoreUse) :
    Alike (storeAfter m uses) (storeAfter r uses) := by
  induction uses generalizing m r with
  | nil => exact h
  | cons use rest ih => exact ih (h.step use).2

/-- The whole session, by induction on its uses. -/
theorem session_eq (uses : List StoreUse) :
    session r uses =
      (session m uses).map fun answer => (answer.mapTimes r.timeOfColumn).fromRows := by
  induction uses generalizing m r with
  | nil => rfl
  | cons use rest ih =>
      obtain ⟨hanswer, hafter⟩ := h.step use
      rw [session, session, List.map_cons, hanswer, ih hafter, RowStore.timeOfColumn_run]

end Alike

/-! ### The schemas of a session -/

/-- The schemas that are saved, in order. -/
def savedSchemas (uses : List StoreUse) : List SchemaRecord :=
  uses.flatMap fun use => use.schema?.toList

namespace MemoryStore

/-- A use writes the schema that it saves, and no other use touches the schemas. -/
theorem schemas_run (s : MemoryStore) (use : StoreUse) :
    (use.run s).2.schemas =
      use.schema?.toList.foldl (fun t record => Table.insert t record.name record) s.schemas := by
  cases use <;> rfl

theorem schemas_after (uses : List StoreUse) (s : MemoryStore) :
    (storeAfter s uses).schemas =
      (savedSchemas uses).foldl (fun t record => Table.insert t record.name record) s.schemas := by
  induction uses generalizing s with
  | nil => rfl
  | cons use rest ih =>
      have hrest := ih (use.run s).2
      rw [schemas_run, ← List.foldl_append] at hrest
      exact hrest

/-- A session leaves for each name the last schema that was saved. -/
theorem mem_listSchemas_after {uses : List StoreUse} {record : SchemaRecord} :
    record ∈ (storeAfter ({} : MemoryStore) uses).listSchemas ↔
      IsLast SchemaRecord.name (savedSchemas uses) record := by
  have htable : (storeAfter ({} : MemoryStore) uses).schemas =
      Table.ofEntries ((savedSchemas uses).map fun record => (record.name, record)) := by
    rw [schemas_after, Table.ofEntries, Table.insertAll, List.foldl_map]
  unfold listSchemas Table.values
  rw [List.mem_map, htable]
  constructor
  · rintro ⟨e, he, rfl⟩
    exact (mem_index.1 (List.mem_mergeSort.1 he)).1
  · intro hlast
    exact ⟨(record.name, record), List.mem_mergeSort.2 (mem_index.2 ⟨hlast, rfl⟩), rfl⟩

end MemoryStore

/-! ### Both stores -/

theorem RowStore.schemaOfRow_eq_self_iff {record : SchemaRecord} :
    schemaOfRow record = record ↔ record.schema ≠ [] := by
  unfold schemaOfRow
  split
  · rename_i hempty
    rw [List.isEmpty_iff] at hempty
    refine iff_of_false (fun heq => ?_) (not_not_intro hempty)
    have hschema := congrArg SchemaRecord.schema heq
    rw [hempty] at hschema
    simp at hschema
  · rename_i hfull
    rw [List.isEmpty_iff] at hfull
    exact iff_of_true rfl hfull

theorem StoreAnswer.fromRows_eq_self_iff {a : StoreAnswer} :
    a.fromRows = a ↔ ∀ records, a = .schemas records → ∀ record ∈ records, record.schema ≠ [] := by
  cases a with
  | schemas records =>
      have hid := List.map_inj_left (f := RowStore.schemaOfRow) (g := id) (l := records)
      rw [List.map_id] at hid
      simp only [fromRows, schemas.injEq, hid, id, RowStore.schemaOfRow_eq_self_iff, forall_eq']
  | _ => simp [fromRows]

theorem StoreAnswer.mapTimes_eq_schemas_iff {f : Time → Time} {a : StoreAnswer}
    {records : List SchemaRecord} : a.mapTimes f = .schemas records ↔ a = .schemas records := by
  cases a <;> simp [mapTimes]

/-- **Stores of rows and of tables are twins**, but for empty schemas and for times. Every session on
an empty store gets the same answers from both, in the same order, except that a schema without any
key comes back from its row as a plain object, and a time as the engine behind the rows gives it back;
so but for times all answers are the same exactly when schemas are never listed while the last one
saved under some name is empty. -/
theorem session_rows (timeOfColumn : Time → Time) (uses : List StoreUse) :
    session ({ timeOfColumn } : RowStore) uses =
        (session ({} : MemoryStore) uses).map (fun a => (a.mapTimes timeOfColumn).fromRows) ∧
      (session ({ timeOfColumn } : RowStore) uses =
          (session ({} : MemoryStore) uses).map (StoreAnswer.mapTimes timeOfColumn) ↔
        ∀ before after, uses = before ++ .listSchemas :: after →
          ∀ record, IsLast SchemaRecord.name (savedSchemas before) record →
            record.schema ≠ []) := by
  have hsession := (alike_empty timeOfColumn).session_eq uses
  refine ⟨hsession, ?_⟩
  rw [hsession, List.map_inj_left]
  simp only [StoreAnswer.fromRows_eq_self_iff, StoreAnswer.mapTimes_eq_schemas_iff, mem_session]
  constructor
  · intro h before after huses record hlast
    exact h _ ⟨before, .listSchemas, after, huses, rfl⟩ _ rfl record
      (MemoryStore.mem_listSchemas_after.2 hlast)
  · rintro h _ ⟨before, use, after, huses, rfl⟩ records hanswer record hrecord
    -- of all uses only a listing of schemas answers with schemas
    cases use with
    | listSchemas =>
        obtain rfl := StoreAnswer.schemas.inj hanswer
        exact h before after huses record (MemoryStore.mem_listSchemas_after.1 hrecord)
    | _ => exact absurd hanswer (by simp [StoreUse.run])

/-- An empty schema, which allows every value, is listed as one that allows objects only. -/
example :
    session ({} : RowStore) [.saveSchema { name := "Any", schema := [] }, .listSchemas] =
      [.saved, .schemas [{ name := "Any", schema := [("type", .str "object")] }]] ∧
    session ({} : MemoryStore) [.saveSchema { name := "Any", schema := [] }, .listSchemas] =
      [.saved, .schemas [{ name := "Any", schema := [] }]] := by
  decide +kernel

end RouteDoc
