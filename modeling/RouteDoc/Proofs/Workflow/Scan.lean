import RouteDoc.Proofs.Store.Diff
import RouteDoc.Proofs.Store.Memory
import RouteDoc.Workflow
/-!
# RouteDoc.Proofs.Workflow.Scan

**A scan settles.** A scan of a store in memory writes the new and the updated routes, each once and
under its own key (`get?_upsertAll_of_mem`), and leaves all other records as they are
(`get?_upsertAll_of_not_mem`). So every live route has a record that agrees with it afterwards
(`agrees_after_scan`), and a further scan of the same routes finds nothing to do.

What was written by hand is what a scan does not write (`OverrideRecord.handwritten`).
-/

namespace RouteDoc

/-- A record without what a scan writes. -/
def OverrideRecord.handwritten (record : OverrideRecord) : OverrideRecord :=
  { record with
    routeName := none
    controller := none
    action := none
    autoDetectedData := none
    lastScannedAt := none }

theorem OverrideRecord.handwritten_scan (record : OverrideRecord) (r : Route) (time : Time) :
    (record.scan r time).handwritten = record.handwritten := rfl

/-- What a scan writes agrees with the route. -/
theorem OverrideRecord.agrees_scan (record : OverrideRecord) (r : Route) (time : Time) :
    Agrees r (record.scan r time) := ⟨rfl, rfl, rfl⟩

/-- The new and the updated routes of a difference are some of its routes. -/
theorem RouteDiff.routesToWrite_sublist (d : RouteDiff) :
    (Workflow.routesToWrite d).Sublist d.sorted := by
  unfold Workflow.routesToWrite sorted
  exact List.sublist_append_left _ _

namespace MemoryStore

/-! ### One write -/

variable {time : Time}

theorem upsertScanned_of_get? {s : MemoryStore} {r : Route} {record : OverrideRecord}
    (h : Table.get? s.routes r.key = some record) :
    (s.upsertScanned r time).1 = record.scan r time := by
  unfold upsertScanned
  rw [h]

theorem agrees_upsertScanned (s : MemoryStore) (r : Route) (time : Time) :
    Agrees r (s.upsertScanned r time).1 := by
  unfold upsertScanned
  cases Table.get? s.routes r.key with
  | none => exact OverrideRecord.agrees_scan _ r time
  | some record => exact OverrideRecord.agrees_scan record r time

/-- What is written depends on the record of the key only. -/
theorem upsertScanned_congr {s s' : MemoryStore} {r : Route}
    (h : Table.get? s'.routes r.key = Table.get? s.routes r.key) :
    (s'.upsertScanned r time).1 = (s.upsertScanned r time).1 := by
  unfold upsertScanned
  rw [h]

theorem get?_upsertScanned (s : MemoryStore) (r : Route) (key : RouteKey) :
    Table.get? (s.upsertScanned r time).2.routes key =
      if r.key = key then some (s.upsertScanned r time).1 else Table.get? s.routes key :=
  Table.get?_insert ..

/-! ### All writes -/

open Workflow

theorem upsertAll_cons (s : MemoryStore) (r : Route) (rest : List Route) :
    upsertAll s (r :: rest) time = upsertAll (s.upsertScanned r time).2 rest time := rfl

/-- Other keys are left alone. -/
theorem get?_upsertAll_of_not_mem {routes : List Route} {key : RouteKey}
    (h : key ∉ routes.map Route.key) (s : MemoryStore) :
    Table.get? (upsertAll s routes time).routes key = Table.get? s.routes key := by
  induction routes generalizing s with
  | nil => rfl
  | cons r rest ih =>
      rw [List.map_cons, List.mem_cons, not_or] at h
      rw [upsertAll_cons, ih h.2, get?_upsertScanned, if_neg (Ne.symm h.1)]

/-- Each route is written under its key. -/
theorem get?_upsertAll_of_mem {routes : List Route} (h : (routes.map Route.key).Nodup) {r : Route}
    (hr : r ∈ routes) (s : MemoryStore) (time : Time) :
    Table.get? (upsertAll s routes time).routes r.key = some (s.upsertScanned r time).1 := by
  induction routes generalizing s with
  | nil => simp at hr
  | cons first rest ih =>
      obtain ⟨hfirst, hrest⟩ := List.nodup_cons.1 h
      rw [upsertAll_cons]
      rcases List.mem_cons.1 hr with rfl | hr
      · rw [get?_upsertAll_of_not_mem hfirst, get?_upsertScanned, if_pos rfl]
      · -- the first write is to another key, so it does not matter for this one
        have hne : first.key ≠ r.key := fun heq => hfirst (heq ▸ List.mem_map_of_mem hr)
        have hsame : Table.get? (s.upsertScanned first time).2.routes r.key =
            Table.get? s.routes r.key := by
          rw [get?_upsertScanned, if_neg hne]
        rw [ih hrest hr, upsertScanned_congr hsame]

theorem keyed_upsertAll {routes : List Route} (hr : ∀ r ∈ routes, Text.IsAscii r.method)
    {s : MemoryStore} (h : s.Keyed) : (upsertAll s routes time).Keyed := by
  induction routes generalizing s with
  | nil => exact h
  | cons r rest ih =>
      rw [upsertAll_cons]
      exact ih (fun other ho => hr other (List.mem_cons_of_mem _ ho))
        (h.upsertScanned (hr r List.mem_cons_self) time)

/-! ### What a scan compares and writes -/

/-- The routes that a scan of the store writes. -/
def writtenBy (s : MemoryStore) (routes : List Route) : List Route :=
  routesToWrite (RouteDiff.of routes s.listRoutes)

theorem scan_snd (s : MemoryStore) (routes : List Route) (time : Time) :
    (scan s routes time false false).2 = upsertAll s (s.writtenBy routes) time := rfl

theorem nodup_writtenBy (s : MemoryStore) (routes : List Route) :
    ((s.writtenBy routes).map Route.key).Nodup :=
  (RouteDiff.nodup_sorted_of _ _).sublist ((RouteDiff.routesToWrite_sublist _).map _)

/-- Written is what is new, or differs from its record. -/
theorem mem_writtenBy {s : MemoryStore} (h : s.Keyed) {routes : List Route} {r : Route} :
    r ∈ s.writtenBy routes ↔ IsLast Route.key routes r ∧
      ∀ record, Table.get? s.routes r.key = some record → ¬Agrees r record := by
  unfold writtenBy routesToWrite
  rw [List.mem_append, RouteDiff.mem_new_of, List.mem_map]
  constructor
  · rintro (⟨hlast, hnone⟩ | ⟨c, hc, rfl⟩)
    · refine ⟨hlast, fun record hget => ?_⟩
      have hkey := h.key_eq _ _ hget
      exact absurd hkey (hnone record ((mem_listRoutes h).2 (hkey ▸ hget)))
    · obtain ⟨hlast, hstored, hkey, hdiffer, _⟩ := (RouteDiff.mem_updated_of _ _).1 hc
      refine ⟨hlast, fun record hget => ?_⟩
      rw [isLast_iff_mem (nodup_listRoutes h), mem_listRoutes h, hkey, hget] at hstored
      exact Option.some.inj hstored ▸ hdiffer
  · rintro ⟨hlast, hdiffer⟩
    cases hget : Table.get? s.routes r.key with
    | none =>
        refine .inl ⟨hlast, fun record hmem hkey => ?_⟩
        rw [mem_listRoutes h, hkey, hget] at hmem
        simp at hmem
    | some record =>
        have hkey := h.key_eq _ _ hget
        refine .inr ⟨⟨r, record, changedFields r record⟩, ?_, rfl⟩
        refine (RouteDiff.mem_updated_of _ _).2 ⟨hlast, ?_, hkey, hdiffer record hget, rfl⟩
        rw [isLast_iff_mem (nodup_listRoutes h), mem_listRoutes h]
        exact hkey ▸ hget

/-- After a scan, each live route has a record that agrees with it. -/
theorem agrees_after_scan {s : MemoryStore} (h : s.Keyed) {routes : List Route} {r : Route}
    (hlast : IsLast Route.key routes r) :
    ∃ record, Table.get? (upsertAll s (s.writtenBy routes) time).routes r.key = some record ∧
      Agrees r record := by
  by_cases hwritten : r ∈ s.writtenBy routes
  · exact ⟨_, get?_upsertAll_of_mem (nodup_writtenBy s routes) hwritten s time,
      agrees_upsertScanned s r time⟩
  · -- it is not written, so it had such a record, and no other route of its key is written
    have hnot : r.key ∉ (s.writtenBy routes).map Route.key := by
      intro hkey
      obtain ⟨other, hother, heq⟩ := List.mem_map.1 hkey
      have hsame := ((mem_writtenBy h).1 hother).1.eq hlast heq
      exact hwritten (hsame ▸ hother)
    rw [mem_writtenBy h] at hwritten
    push Not at hwritten
    obtain ⟨record, hget, hagrees⟩ := hwritten hlast
    exact ⟨record, (get?_upsertAll_of_not_mem hnot s).trans hget, hagrees⟩

/-- A scan leaves nothing to write. -/
theorem writtenBy_after_scan {s : MemoryStore} (h : s.Keyed) {routes : List Route}
    (hr : ∀ r ∈ routes, Text.IsAscii r.method) (time : Time) :
    (upsertAll s (s.writtenBy routes) time).writtenBy routes = [] := by
  have hkeyed : (upsertAll s (s.writtenBy routes) time).Keyed :=
    keyed_upsertAll (fun r hw => hr r ((mem_writtenBy h).1 hw).1.mem) h
  refine List.eq_nil_iff_forall_not_mem.2 fun r hw => ?_
  obtain ⟨hlast, hdiffer⟩ := (mem_writtenBy hkeyed).1 hw
  obtain ⟨record, hget, hagrees⟩ := agrees_after_scan h hlast
  exact hdiffer record hget hagrees

end MemoryStore

/-! ### The scan -/

namespace Workflow

/-- What a scan that writes does to a store, and what a second one finds, whenever that is. -/
structure Settles (s : MemoryStore) (routes : List Route) (first : ScanResult)
    (after : MemoryStore) : Prop where
  /-- No record is lost, nor what was written in it by hand. -/
  kept : ∀ method uri record, s.findRoute method uri = some record →
    ∃ record', after.findRoute method uri = some record' ∧
      record'.handwritten = record.handwritten
  /-- The records of other keys than those of new and updated routes stay as they are. -/
  untouched : ∀ method uri,
    RouteKey.of method uri ∉ (first.diff.new ++ first.diff.updated.map RouteChange.route).map
      Route.key → after.findRoute method uri = s.findRoute method uri
  /-- The new and the updated routes are counted. -/
  written : first.written = first.diff.new.length + first.diff.updated.length
  /-- The record of a live route carries its name and handler. -/
  live : ∀ r, IsLast Route.key routes r → ∃ record, after.findRoute r.method r.path = some record ∧
    record.routeName = r.name ∧ record.controller = r.controller ∧ record.action = r.action
  /-- A second scan finds no new routes, -/
  no_new : ∀ time, (scan after routes time false false).1.diff.new = []
  /-- and no updated ones, -/
  no_updated : ∀ time, (scan after routes time false false).1.diff.updated = []
  /-- and writes nothing. -/
  idle : ∀ time, (scan after routes time false false).1.written = 0 ∧
    (scan after routes time false false).2 = after

/-- **A scan settles.** In a store that its own operations lead to, a scan loses nothing, writes the
routes that are new or differ and only those, and leaves nothing to do for a second scan; a dry run
does not touch the store. -/
theorem scan_settles {s : MemoryStore} (hs : s.Reachable) {routes : List Route}
    (hr : ∀ r ∈ routes, Text.IsAscii r.method) (time : Time) :
    Settles s routes (scan s routes time false false).1 (scan s routes time false false).2 ∧
      ∀ fresh, (scan s routes time fresh true).2 = s := by
  have hkeyed := hs.keyed
  have hidle := MemoryStore.writtenBy_after_scan hkeyed hr time
  obtain ⟨hnew, hupdated⟩ := List.append_eq_nil_iff.1 hidle
  rw [MemoryStore.scan_snd]
  refine ⟨⟨?_, ?_, ?_, ?_, fun _ => hnew, fun _ => List.map_eq_nil_iff.1 hupdated, fun later => ?_⟩,
    fun fresh => ?_⟩
  · intro method uri record hfind
    by_cases hkey : RouteKey.of method uri ∈ (s.writtenBy routes).map Route.key
    · obtain ⟨r, hwritten, heq⟩ := List.mem_map.1 hkey
      have hbefore : Table.get? s.routes r.key = some record := by
        rw [heq]
        exact hfind
      have hafter := MemoryStore.get?_upsertAll_of_mem (s.nodup_writtenBy routes) hwritten s time
      rw [heq] at hafter
      refine ⟨_, hafter, ?_⟩
      rw [MemoryStore.upsertScanned_of_get? hbefore, OverrideRecord.handwritten_scan]
    · exact ⟨record, (MemoryStore.get?_upsertAll_of_not_mem hkey s).trans hfind, rfl⟩
  · intro method uri hkey
    exact MemoryStore.get?_upsertAll_of_not_mem hkey s
  · change (s.writtenBy routes).length = _
    rw [MemoryStore.writtenBy, routesToWrite, List.length_append, List.length_map]
    rfl
  · intro r hlast
    obtain ⟨record, hget, hcontroller, haction, hname⟩ := MemoryStore.agrees_after_scan hkeyed hlast
    exact ⟨record, hget, hname.symm, hcontroller.symm, haction.symm⟩
  · rw [MemoryStore.scan_snd, hidle]
    exact ⟨congrArg List.length hidle, rfl⟩
  · cases fresh <;> rfl

/-- A store with a hidden record. -/
def usersStore : MemoryStore :=
  ({} : MemoryStore).saveRoute { httpMethod := "get", uri := "/users", isHidden := true }

/-- Live routes, two of them with one key. -/
def usersRoutes : List Route :=
  [{ method := "GET", path := "/users", action := some "index" },
    { method := "post", path := "/users", action := some "store" },
    { method := "Get", path := "/users", action := some "list" }]

/-- Of the two routes with one key the last one is written, over the hidden record. -/
theorem scan_settles_users :
    usersStore.Reachable ∧ (∀ r ∈ usersRoutes, Text.IsAscii r.method) ∧
      (scan usersStore usersRoutes ⟨"2024-05-01"⟩ false false).1.written = 2 ∧
      Settles usersStore usersRoutes (scan usersStore usersRoutes ⟨"2024-05-01"⟩ false false).1
        (scan usersStore usersRoutes ⟨"2024-05-01"⟩ false false).2 ∧
      ∀ fresh, (scan usersStore usersRoutes ⟨"2024-05-01"⟩ fresh true).2 = usersStore := by
  have hreachable : usersStore.Reachable := MemoryStore.Reachable.empty.saveRoute _ (by decide)
  have hascii : ∀ r ∈ usersRoutes, Text.IsAscii r.method := by decide
  exact ⟨hreachable, hascii, by decide +kernel, scan_settles hreachable hascii _⟩

end Workflow

end RouteDoc
