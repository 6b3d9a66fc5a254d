import RouteDoc.Store.Memory
/-!
# RouteDoc.Proofs.Store.Memory

**Stores that were filled by their own operations.** In such a store (`MemoryStore.Reachable`) every
record stands under its own key, and under no other (`MemoryStore.Keyed`), as long as the methods
that were written are ASCII: upper case is then the same when it is taken twice (`upper_upper`).

What a keyed store lists is what it holds (`mem_listRoutes`, `nodup_listRoutes`).
-/

namespace RouteDoc

namespace Text

/-- The text has ASCII characters only. -/
def IsAscii (s : String) : Prop := ∀ c ∈ s.toList, isAscii c = true

instance (s : String) : Decidable (IsAscii s) :=
  decidable_of_iff (s.toList.all isAscii = true) List.all_eq_true

theorem toUpper_ascii {c : Char} (h : isAscii c = true) :
    isAscii c.toUpper = true ∧ c.toUpper.toUpper = c.toUpper := by
  have hall : ∀ n < 128, isAscii (Char.ofNat n).toUpper = true ∧
      (Char.ofNat n).toUpper.toUpper = (Char.ofNat n).toUpper := by decide
  have hc := hall c.toNat (of_decide_eq_true h)
  rwa [Char.ofNat_toNat] at hc

theorem upper_upper {s : String} (h : IsAscii s) : upper (upper s) = upper s := by
  rw [upper_ascii h]
  have hupper : IsAscii (String.ofList (s.toList.map Char.toUpper)) := by
    intro c hc
    rw [String.toList_ofList] at hc
    obtain ⟨d, hd, rfl⟩ := List.mem_map.1 hc
    exact (toUpper_ascii (h d hd)).1
  rw [upper_ascii hupper, String.toList_ofList, List.map_map]
  exact congrArg String.ofList
    (List.map_congr_left fun c hc => (toUpper_ascii (h c hc)).2)

end Text

/-! ### Keys of records -/

namespace OverrideRecord

theorem key_normalized {record : OverrideRecord} (h : Text.IsAscii record.httpMethod) :
    record.normalized.key = record.key := by
  unfold key normalized RouteKey.of
  rw [Text.upper_upper h]

theorem key_scan (record : OverrideRecord) (r : Route) (time : Time) :
    (record.scan r time).key = record.key := rfl

theorem key_ofScan {r : Route} (h : Text.IsAscii r.method) (time : Time) :
    (ofScan r time).key = r.key := by
  unfold ofScan
  rw [key_scan]
  unfold key RouteKey.of
  rw [Text.upper_upper h]
  rfl

end OverrideRecord

namespace MemoryStore

/-! ### Records under their keys -/

/-- Every record stands under its own key, and no key is there twice. -/
structure Keyed (s : MemoryStore) : Prop where
  nodup : (Table.keys s.routes).Nodup
  key_eq : ∀ key record, Table.get? s.routes key = some record → record.key = key

theorem keyed_empty : Keyed {} := ⟨List.nodup_nil, by simp⟩

theorem Keyed.insert {s s' : MemoryStore} {key : RouteKey} {record : OverrideRecord} (h : s.Keyed)
    (hroutes : s'.routes = Table.insert s.routes key record) (hkey : record.key = key) :
    s'.Keyed := by
  refine ⟨?_, fun k other hk => ?_⟩
  · rw [hroutes]
    exact Table.nodup_keys_insert _ _ h.nodup
  · rw [hroutes, Table.get?_insert] at hk
    split at hk
    · rename_i heq
      rw [← Option.some.inj hk, hkey, heq]
    · exact h.key_eq k other hk

theorem Keyed.erase {s s' : MemoryStore} {key : RouteKey} (h : s.Keyed)
    (hroutes : s'.routes = Table.erase s.routes key) : s'.Keyed := by
  refine ⟨?_, fun k record hk => ?_⟩
  · rw [hroutes]
    exact Table.nodup_keys_erase _ h.nodup
  · rw [hroutes] at hk
    by_cases hne : key = k
    · subst hne
      rw [Table.get?_erase_self _ h.nodup] at hk
      simp at hk
    · rw [Table.get?_erase_of_ne _ hne] at hk
      exact h.key_eq k record hk

/-- The operations on schemas and security schemes do not look at the routes. -/
theorem Keyed.of_routes_eq {s s' : MemoryStore} (h : s.Keyed) (hroutes : s'.routes = s.routes) :
    s'.Keyed := by
  refine ⟨?_, ?_⟩
  · rw [hroutes]
    exact h.nodup
  · rw [hroutes]
    exact h.key_eq

theorem Keyed.upsertScanned {s : MemoryStore} (h : s.Keyed) {r : Route}
    (hr : Text.IsAscii r.method) (time : Time) : (s.upsertScanned r time).2.Keyed := by
  refine h.insert rfl ?_
  cases hget : Table.get? s.routes r.key with
  | none => exact OverrideRecord.key_ofScan hr time
  | some record => exact (OverrideRecord.key_scan record r time).trans (h.key_eq r.key record hget)

/-! ### Reachable stores -/

/-- The stores that operations lead to, with methods in ASCII. -/
inductive Reachable : MemoryStore → Prop
  | empty : Reachable {}
  | upsertScanned {s : MemoryStore} (h : Reachable s) (r : Route) (hr : Text.IsAscii r.method)
      (time : Time) : Reachable (s.upsertScanned r time).2
  | saveRoute {s : MemoryStore} (h : Reachable s) (record : OverrideRecord)
      (hr : Text.IsAscii record.httpMethod) : Reachable (s.saveRoute record)
  | deleteRoute {s : MemoryStore} (h : Reachable s) (method uri : String) :
      Reachable (s.deleteRoute method uri).2
  | clearRoutes {s : MemoryStore} (h : Reachable s) : Reachable s.clearRoutes.2
  | saveSchema {s : MemoryStore} (h : Reachable s) (record : SchemaRecord) :
      Reachable (s.saveSchema record)
  | saveSecurityScheme {s : MemoryStore} (h : Reachable s) (record : SecuritySchemeRecord) :
      Reachable (s.saveSecurityScheme record)

theorem Reachable.keyed {s : MemoryStore} (h : Reachable s) : s.Keyed := by
  induction h with
  | empty => exact keyed_empty
  | upsertScanned _ r hr time ih => exact ih.upsertScanned hr time
  | saveRoute _ record hr ih => exact ih.insert rfl (OverrideRecord.key_normalized hr)
  | deleteRoute _ method uri ih => exact ih.erase rfl
  | clearRoutes => exact ⟨List.nodup_nil, by simp [MemoryStore.clearRoutes]⟩
  | saveSchema _ _ ih => exact ih.of_routes_eq rfl
  | saveSecurityScheme _ _ ih => exact ih.of_routes_eq rfl

/-! ### What a store lists -/

theorem mem_listRoutes {s : MemoryStore} (h : s.Keyed) {record : OverrideRecord} :
    record ∈ s.listRoutes ↔ Table.get? s.routes record.key = some record := by
  unfold listRoutes Table.values
  rw [List.mem_map]
  constructor
  · rintro ⟨e, he, rfl⟩
    have hget := Table.get?_of_mem h.nodup (List.mem_mergeSort.1 he)
    rwa [h.key_eq _ _ hget]
  · intro hget
    exact ⟨_, List.mem_mergeSort.2 (Table.mem_of_get? hget), rfl⟩

/-- No key is listed twice. -/
theorem nodup_listRoutes {s : MemoryStore} (h : s.Keyed) :
    (s.listRoutes.map OverrideRecord.key).Nodup := by
  unfold listRoutes Table.values
  rw [List.map_map]
  have hkeys : (s.routes.mergeSort fun a b => RouteKey.before a.1 b.1).map
      (OverrideRecord.key ∘ Prod.snd) =
        (s.routes.mergeSort fun a b => RouteKey.before a.1 b.1).map Prod.fst := by
    refine List.map_congr_left fun e he => ?_
    exact h.key_eq _ _ (Table.get?_of_mem h.nodup (List.mem_mergeSort.1 he))
  rw [hkeys]
  exact ((List.mergeSort_perm _ _).map Prod.fst).nodup_iff.2 h.nodup

end MemoryStore

end RouteDoc
