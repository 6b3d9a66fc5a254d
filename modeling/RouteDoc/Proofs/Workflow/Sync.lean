import Mathlib.Data.List.Perm.Subperm
import RouteDoc.Proofs.Store.Memory
import RouteDoc.Proofs.Store.Sessions
import RouteDoc.Workflow
/-!
# RouteDoc.Proofs.Workflow.Sync

**A comparison deletes what is gone, and nothing else.** A comparison of live routes with a store in
memory writes security schemes first, when it is asked to, and then deletes the records of routes that
are gone, once that is confirmed (`sync_eq`).

* `foldl_deleteRoute` is the loop that deletes: entries of other keys stay, and those that disappear
  are counted.
* `mem_orphans` says which records are gone: those whose key no live route has. So a store without
  them has none that could be deleted (`orphans_eq_nil`).
* The counts of a report are those of the store that it leaves, but for the documented routes, which
  are counted before anything is deleted (`sync_counts`).
-/

namespace RouteDoc

open Workflow

/-- Where nothing is listed twice, a part of a list has as many members of a kind as the whole exactly
when it has all of them. -/
theorem length_filter_eq_iff {α : Type} {xs part : List α} (h : xs.Nodup) (hpart : part.Subperm xs)
    (p : α → Bool) :
    (xs.filter p).length = (part.filter p).length ↔ ∀ x ∈ xs.filter p, x ∈ part := by
  have hfilter := hpart.filter p
  constructor
  · intro hlength x hx
    have hperm := hfilter.perm_of_length_le (Nat.le_of_eq hlength)
    exact (List.mem_filter.1 (hperm.mem_iff.2 hx)).1
  · intro hall
    have hsubset : xs.filter p ⊆ part.filter p := fun x hx =>
      List.mem_filter.2 ⟨hall x hx, (List.mem_filter.1 hx).2⟩
    exact Nat.le_antisymm (List.subperm_of_subset (h.filter p) hsubset).length_le hfilter.length_le

/-! ### Security schemes of a configuration -/

namespace MemoryStore

variable {s : MemoryStore} {routes : List Route}

/-! ### Writing security schemes -/

/-- The store after security schemes were written into it. -/
def secured (s : MemoryStore) (records : List SecuritySchemeRecord) : MemoryStore :=
  records.foldl saveSecurityScheme s

theorem secured_eq (s : MemoryStore) (records : List SecuritySchemeRecord) :
    s.secured records = { s with
      securitySchemes :=
        Table.insertAll s.securitySchemes (records.map fun record => (record.name, record)) } := by
  induction records generalizing s with
  | nil => rfl
  | cons record rest ih =>
      have hrest : s.secured (record :: rest) = (s.saveSecurityScheme record).secured rest := rfl
      rw [hrest, ih]
      rfl

/-- The loop that deletes counts on from any number. -/
theorem foldl_deleteRoute (records : List OverrideRecord) (n : Nat) (s : MemoryStore) :
    records.foldl (fun (count, store) r =>
        let (found, store) := MetadataStore.deleteRoute store r.httpMethod r.uri
        (if found then count + 1 else count, store)) (n, s) =
      (n + (deleteAll s records).1, (deleteAll s records).2) := by
  induction records generalizing n s with
  | nil => rfl
  | cons record rest ih =>
      unfold deleteAll
      rw [List.foldl_cons, List.foldl_cons, ih, ih]
      refine Prod.ext ?_ rfl
      dsimp only
      split <;> omega

theorem deleteAll_cons (s : MemoryStore) (record : OverrideRecord) (rest : List OverrideRecord) :
    deleteAll s (record :: rest) =
      ((if Table.has s.routes record.key then 1 else 0) +
          (deleteAll (s.deleteRoute record.httpMethod record.uri).2 rest).1,
        (deleteAll (s.deleteRoute record.httpMethod record.uri).2 rest).2) :=
  foldl_deleteRoute rest _ _

/-- Deleting records keeps the entries of other keys. -/
theorem deleteAll_snd (h : (Table.keys s.routes).Nodup) (records : List OverrideRecord) :
    (deleteAll s records).2 = { s with
      routes := s.routes.filter fun e => e.1 ∉ records.map OverrideRecord.key } := by
  induction records generalizing s with
  | nil => simp [deleteAll]
  | cons record rest ih =>
      have hboth : ((s.routes.filter fun e => e.1 ≠ record.key).filter fun e =>
          e.1 ∉ rest.map OverrideRecord.key) =
            s.routes.filter fun e => e.1 ∉ (record :: rest).map OverrideRecord.key := by
        rw [List.filter_filter]
        refine List.filter_congr fun e _ => ?_
        rw [← Bool.decide_and]
        refine decide_eq_decide.2 ?_
        rw [List.map_cons, List.mem_cons, not_or]
        exact and_comm
      rw [deleteAll_cons, ih (Table.nodup_keys_erase _ h), ← hboth, ← Table.erase_eq_filter h]
      rfl

/-- What disappears is counted. -/
theorem deleteAll_fst (s : MemoryStore) (records : List OverrideRecord) :
    (deleteAll s records).1 + (deleteAll s records).2.routes.length = s.routes.length := by
  induction records generalizing s with
  | nil => simp [deleteAll]
  | cons record rest ih =>
      have hrest := ih (s.deleteRoute record.httpMethod record.uri).2
      have hfirst : (s.deleteRoute record.httpMethod record.uri).2.routes.length +
          (if Table.has s.routes record.key then 1 else 0) = s.routes.length :=
        Table.length_erase s.routes record.key
      rw [deleteAll_cons]
      dsimp only
      omega

/-! ### Records of routes that are gone -/

/-- The records of routes that are gone. -/
def orphans (s : MemoryStore) (routes : List Route) : List OverrideRecord :=
  (RouteDiff.of routes s.listRoutes).removed

theorem length_listRoutes (s : MemoryStore) : s.listRoutes.length = s.routes.length := by
  simp [listRoutes, Table.values]

/-- No record is listed twice, as every record stands under the key that is written in it. -/
theorem nodup_listRoutes_of_holds {rows : Rows OverrideRecord} (s : MemoryStore)
    (h : rows.Holds OverrideRecord.storedKey s.routes) : s.listRoutes.Nodup := by
  refine List.Nodup.of_map OverrideRecord.storedKey ?_
  have hkeys : s.listRoutes.map OverrideRecord.storedKey =
      (s.routes.mergeSort fun a b => RouteKey.before a.1 b.1).map Prod.fst := by
    unfold listRoutes Table.values
    rw [List.map_map]
    exact List.map_congr_left fun e he => (h.key_eq (List.mem_mergeSort.1 he)).symm
  rw [hkeys]
  exact ((List.mergeSort_perm _ _).map Prod.fst).nodup_iff.2 h.nodup

theorem listRoutes_subperm {s' : MemoryStore} (h : s'.routes.Sublist s.routes) :
    s'.listRoutes.Subperm s.listRoutes := by
  have hperm : ∀ s : MemoryStore, s.listRoutes.Perm (s.routes.map Prod.snd) := fun s =>
    (List.mergeSort_perm _ _).map Prod.snd
  exact (hperm s').subperm_right.2 ((hperm s).subperm_left.2 (h.map Prod.snd).subperm)

/-- The listed records about which something is written. -/
def documented (s : MemoryStore) : List OverrideRecord := s.listRoutes.filter OverrideRecord.isDocumented

/-! ### A comparison -/

theorem listRoutes_secured (s : MemoryStore) (records : List SecuritySchemeRecord) :
    (s.secured records).listRoutes = s.listRoutes := by
  rw [secured_eq]
  rfl

section

variable (s routes) (config : GeneratorConfig) (clean initSecurity : Bool)
  (confirm : List OverrideRecord → Bool)

/-- The security schemes that a comparison writes. -/
def schemesToWrite : List SecuritySchemeRecord :=
  if initSecurity then config.securitySchemeRecords else []

/-- What a comparison deletes, and the store that it leaves. -/
theorem sync_eq :
    ((sync config s routes clean initSecurity confirm).1.deleted,
        (sync config s routes clean initSecurity confirm).2) =
      if clean && confirm (s.orphans routes) then
        deleteAll (s.secured (schemesToWrite config initSecurity)) (s.orphans routes)
      else (0, s.secured (schemesToWrite config initSecurity)) := by
  generalize hstore : s.secured (schemesToWrite config initSecurity) = store
  have horphans : s.orphans routes = store.orphans routes := by
    unfold orphans
    rw [← hstore, listRoutes_secured]
  have hsync : ((sync config s routes clean initSecurity confirm).1.deleted,
      (sync config s routes clean initSecurity confirm).2) =
        if clean && !(store.orphans routes).isEmpty && confirm (store.orphans routes) then
          deleteAll store (store.orphans routes)
        else (0, store) := by
    rw [← hstore]
    rfl
  rw [hsync, horphans]
  -- without orphans it makes no difference whether they are deleted
  cases store.orphans routes with
  | nil => cases clean <;> cases confirm [] <;> rfl
  | cons record rest => rw [List.isEmpty_cons, Bool.not_false, Bool.and_true]

/-- The store that a comparison leaves: with the security schemes, and without the orphans if they
are deleted. -/
theorem sync_snd (h : (Table.keys s.routes).Nodup) :
    (sync config s routes clean initSecurity confirm).2 =
      { s.secured (schemesToWrite config initSecurity) with
        routes :=
          if clean && confirm (s.orphans routes) then
            s.routes.filter fun e => e.1 ∉ (s.orphans routes).map OverrideRecord.key
          else s.routes } := by
  have hsnd := congrArg Prod.snd (sync_eq s routes config clean initSecurity confirm)
  have hroutes : (s.secured (schemesToWrite config initSecurity)).routes = s.routes := by
    rw [secured_eq]
  rw [apply_ite Prod.snd, deleteAll_snd (hroutes.symm ▸ h), hroutes] at hsnd
  refine hsnd.trans ?_
  split
  · rfl
  · rw [← hroutes]

/-- What disappears is reported as deleted. -/
theorem deleted_add_length :
    (sync config s routes clean initSecurity confirm).1.deleted +
      (sync config s routes clean initSecurity confirm).2.routes.length = s.routes.length := by
  have hsync := sync_eq s routes config clean initSecurity confirm
  have hsecured := congrArg (fun s => s.routes.length)
    (s.secured_eq (schemesToWrite config initSecurity))
  split at hsync
  · have hcount := deleteAll_fst (s.secured (schemesToWrite config initSecurity)) (s.orphans routes)
    rw [← hsync] at hcount
    exact hcount.trans hsecured
  · obtain ⟨hdeleted, hstore⟩ := Prod.mk.inj hsync
    rw [hdeleted, hstore, Nat.zero_add]
    exact hsecured

/-- A comparison may remove entries from the table of routes, and does nothing else to it. -/
theorem routes_sync_sublist (h : (Table.keys s.routes).Nodup) :
    (sync config s routes clean initSecurity confirm).2.routes.Sublist s.routes := by
  rw [sync_snd s routes config clean initSecurity confirm h]
  dsimp only
  split
  · exact List.filter_sublist
  · exact List.Sublist.refl _

end

end MemoryStore

namespace Workflow

/-! ### What is deleted -/

/-- What a report counts, and where. -/
structure Counts (s : MemoryStore) (report : SyncReport) (after : MemoryStore) : Prop where
  stored : report.storedRoutes = after.listRoutes.length
  schemas : report.storedSchemas = after.listSchemas.length
  securitySchemes : report.securitySchemes = after.listSecuritySchemes.length
  /-- Documented routes are counted before anything is deleted, -/
  documented : report.documentedRoutes = s.documented.length
  /-- so the store that is left has as many exactly when no documented record was deleted; -/
  documented_iff : report.documentedRoutes = after.documented.length ↔
    ∀ record ∈ s.documented, record ∈ after.listRoutes
  /-- and they exceed the stored routes by the deleted ones at most. -/
  excess : (report.documentedRoutes : Int) ≤ report.storedRoutes + report.deleted

/-- **A report counts what is left**, but for the documented routes: in whatever store a session of
operations leads to, their number is that of the store before the deletion. -/
theorem sync_counts (uses : List StoreUse) (config : GeneratorConfig) (routes : List Route)
    (clean initSecurity : Bool) (confirm : List OverrideRecord → Bool) :
    Counts (storeAfter ({} : MemoryStore) uses)
      (sync config (storeAfter ({} : MemoryStore) uses) routes clean initSecurity confirm).1
      (sync config (storeAfter ({} : MemoryStore) uses) routes clean initSecurity confirm).2 := by
  -- rows hold the same as the tables, so no key and no record is there twice
  have hroutes := ((alike_empty id).after uses).routes
  generalize storeAfter ({} : MemoryStore) uses = s at hroutes
  have hsublist := s.routes_sync_sublist routes config clean initSecurity confirm hroutes.nodup
  have hdeleted := s.deleted_add_length routes config clean initSecurity confirm
  have hdocumented : (sync config s routes clean initSecurity confirm).1.documentedRoutes =
      s.documented.length := by
    change ((s.secured _).listRoutes.filter _).length = _
    rw [MemoryStore.listRoutes_secured]
    rfl
  have hstored : (sync config s routes clean initSecurity confirm).1.storedRoutes =
      (s.listRoutes.length : Int) - (sync config s routes clean initSecurity confirm).1.deleted := by
    rw [← s.listRoutes_secured (MemoryStore.schemesToWrite config initSecurity)]
    rfl
  rw [← MemoryStore.length_listRoutes, ← MemoryStore.length_listRoutes] at hdeleted
  refine ⟨?_, rfl, rfl, hdocumented, ?_, ?_⟩
  · omega
  · rw [hdocumented]
    exact length_filter_eq_iff (s.nodup_listRoutes_of_holds hroutes)
      (MemoryStore.listRoutes_subperm hsublist) _
  · have hle : s.documented.length ≤ s.listRoutes.length := List.length_filter_le _ _
    omega

/-- A documented record is counted although it was deleted. -/
example :
    let store := ({} : MemoryStore).saveRoute { httpMethod := "GET", uri := "/old", summary := "Old" }
    let report := (sync {} store [] true false fun _ => true).1
    report.documentedRoutes = 1 ∧ report.storedRoutes = 0 := by
  decide +kernel

end Workflow

end RouteDoc
