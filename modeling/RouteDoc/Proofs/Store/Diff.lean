import Mathlib.Data.List.Basic
import Mathlib.Data.List.Induction
import RouteDoc.Store.Diff
/-!
# RouteDoc.Proofs.Store.Diff

**A difference sorts every key once.** `RouteDiff.Sorts` says what a difference tells about live routes
and stored records, without the indexes that `RouteDiff.of` goes by: of several entries with one key
the last one counts (`IsLast`), on both sides.

* `get?_index` ties an index to the entries that are last with their keys.
* `classify` puts one route in one place (`mem_new_classify`, `mem_updated_classify`,
  `mem_unchanged_classify`, `sorted_classify`), and the `foldl` lemmas lift this to all of them.
-/

namespace RouteDoc

/-! ### The last entry of a key -/

section

variable {α κ : Type}

/-- An entry of a list is the last one with its key. -/
def IsLast (key : α → κ) (xs : List α) (x : α) : Prop :=
  ∃ before after, xs = before ++ x :: after ∧ ∀ y ∈ after, key y ≠ key x

theorem IsLast.mem {key : α → κ} {xs : List α} {x : α} (h : IsLast key xs x) : x ∈ xs := by
  obtain ⟨before, after, rfl, _⟩ := h
  simp

theorem not_isLast_nil {key : α → κ} {x : α} : ¬IsLast key [] x :=
  fun h => nomatch h.mem

/-- A further entry is last itself, and takes the place of those with its key. -/
theorem isLast_snoc_iff {key : α → κ} {xs : List α} {x y : α} :
    IsLast key (xs ++ [y]) x ↔ x = y ∨ (IsLast key xs x ∧ key y ≠ key x) := by
  constructor
  · rintro ⟨before, after, hsplit, hafter⟩
    rcases List.eq_nil_or_concat after with rfl | ⟨rest, z, rfl⟩
    · have hend := List.append_inj_right' hsplit rfl
      exact .inl (List.singleton_inj.1 hend).symm
    · rw [List.concat_eq_append] at hsplit hafter
      rw [← List.cons_append, ← List.append_assoc] at hsplit
      obtain ⟨rfl, hz⟩ := List.append_inj' hsplit rfl
      obtain rfl := List.singleton_inj.1 hz
      refine .inr ⟨⟨before, rest, rfl, fun w hw => ?_⟩, hafter y (by simp)⟩
      exact hafter w (List.mem_append_left _ hw)
  · rintro (rfl | ⟨⟨before, after, rfl, hafter⟩, hy⟩)
    · exact ⟨xs, [], rfl, by simp⟩
    · refine ⟨before, after ++ [y], by simp, fun w hw => ?_⟩
      rcases List.mem_append.1 hw with hw | hw
      · exact hafter w hw
      · exact List.mem_singleton.1 hw ▸ hy

/-- Where no key is repeated, every entry is the last one of its key. -/
theorem isLast_iff_mem {key : α → κ} {xs : List α} (h : (xs.map key).Nodup) {x : α} :
    IsLast key xs x ↔ x ∈ xs := by
  refine ⟨IsLast.mem, fun hx => ?_⟩
  obtain ⟨before, after, rfl⟩ := List.append_of_mem hx
  refine ⟨before, after, rfl, fun y hy heq => ?_⟩
  rw [List.map_append, List.map_cons] at h
  have htail := List.nodup_cons.1 (List.nodup_append.1 h).2.1
  exact htail.1 (heq ▸ List.mem_map_of_mem hy)

variable [DecidableEq κ]

theorem ofEntries_snoc (entries : List (κ × α)) (e : κ × α) :
    Table.ofEntries (entries ++ [e]) = Table.insert (Table.ofEntries entries) e.1 e.2 := by
  unfold Table.ofEntries Table.insertAll
  rw [List.foldl_append]
  rfl

/-- An index finds the last entry of a key. -/
theorem get?_index {key : α → κ} {xs : List α} {k : κ} {x : α} :
    Table.get? (Table.ofEntries (xs.map fun x => (key x, x))) k = some x ↔
      IsLast key xs x ∧ key x = k := by
  induction xs using List.reverseRecOn with
  | nil =>
      have hnone : Table.get? (Table.ofEntries ([] : List (κ × α))) k = none := rfl
      simp [hnone, not_isLast_nil]
  | append_singleton xs y ih =>
      rw [List.map_append, List.map_singleton, ofEntries_snoc, Table.get?_insert, isLast_snoc_iff]
      split
      · rename_i hy
        rw [Option.some.injEq]
        constructor
        · rintro rfl
          exact ⟨.inl rfl, hy⟩
        · rintro ⟨rfl | ⟨_, hne⟩, hx⟩
          · rfl
          · exact absurd (hy.trans hx.symm) hne
      · rename_i hy
        rw [ih]
        constructor
        · rintro ⟨hlast, hx⟩
          exact ⟨.inr ⟨hlast, fun heq => hy (heq.trans hx)⟩, hx⟩
        · rintro ⟨rfl | ⟨hlast, _⟩, hx⟩
          · exact absurd hx hy
          · exact ⟨hlast, hx⟩

/-- A key has only one last entry. -/
theorem IsLast.eq {key : α → κ} {xs : List α} {x y : α} (hx : IsLast key xs x)
    (hy : IsLast key xs y) (h : key x = key y) : x = y := by
  have hfind := get?_index.2 ⟨hx, h⟩
  rw [get?_index.2 ⟨hy, rfl⟩] at hfind
  exact (Option.some.inj hfind).symm

theorem mem_keys_index {key : α → κ} {xs : List α} {k : κ} :
    k ∈ Table.keys (Table.ofEntries (xs.map fun x => (key x, x))) ↔ ∃ x ∈ xs, key x = k := by
  rw [Table.ofEntries, Table.mem_keys_insertAll]
  simp [Table.keys]

theorem get?_index_eq_none {key : α → κ} {xs : List α} {k : κ} :
    Table.get? (Table.ofEntries (xs.map fun x => (key x, x))) k = none ↔
      ∀ x ∈ xs, key x ≠ k := by
  rw [Table.get?_eq_none_iff, mem_keys_index]
  simp

/-- The entries of an index are those that are last with their keys. -/
theorem mem_index {key : α → κ} {xs : List α} {e : κ × α} :
    e ∈ Table.ofEntries (xs.map fun x => (key x, x)) ↔ IsLast key xs e.2 ∧ key e.2 = e.1 := by
  rw [← get?_index]
  exact ⟨Table.get?_of_mem (Table.nodup_keys_ofEntries _), Table.mem_of_get?⟩

end

/-! ### Fields that differ -/

/-- A route and a record name the same handler and the same route. -/
def Agrees (r : Route) (record : OverrideRecord) : Prop :=
  r.controller = record.controller ∧ r.action = record.action ∧ r.name = record.routeName

theorem mem_changedFields {r : Route} {record : OverrideRecord} {f : TrackedField} :
    f ∈ changedFields r record ↔ f.ofRoute r ≠ f.ofRecord record := by
  have hall : f ∈ TrackedField.all := by cases f <;> decide
  simp [changedFields, hall]

theorem changedFields_eq_nil {r : Route} {record : OverrideRecord} :
    changedFields r record = [] ↔ Agrees r record := by
  rw [List.eq_nil_iff_forall_not_mem]
  simp only [mem_changedFields, not_not]
  constructor
  · intro h
    exact ⟨h .controller, h .action, h .routeName⟩
  · rintro ⟨hcontroller, haction, hname⟩ f
    cases f
    · exact hcontroller
    · exact haction
    · exact hname

theorem nodup_changedFields (r : Route) (record : OverrideRecord) :
    (changedFields r record).Nodup := by
  have hall : TrackedField.all.Nodup := by decide
  exact hall.sublist List.filter_sublist

namespace RouteDiff

/-- The live routes of a difference, wherever they were put. -/
def sorted (d : RouteDiff) : List Route := d.new ++ d.updated.map RouteChange.route ++ d.unchanged

/-! ### One route -/

section

variable {records : Table RouteKey OverrideRecord} {d : RouteDiff} {e : RouteKey × Route}

theorem mem_new_classify {r : Route} :
    r ∈ (classify records d e).new ↔
      r ∈ d.new ∨ (r = e.2 ∧ Table.get? records e.1 = none) := by
  unfold classify
  cases hget : Table.get? records e.1 with
  | none => simp
  | some record =>
      dsimp only
      split <;> simp

theorem mem_updated_classify {c : RouteChange} :
    c ∈ (classify records d e).updated ↔
      c ∈ d.updated ∨ (c.route = e.2 ∧ Table.get? records e.1 = some c.record ∧
        c.changed = changedFields c.route c.record ∧ c.changed ≠ []) := by
  obtain ⟨route, record, changed⟩ := c
  unfold classify
  cases hget : Table.get? records e.1 with
  | none => simp
  | some stored =>
      dsimp only
      split
      · -- nothing differs, so no change can be the one of this route
        rename_i hsame
        rw [List.isEmpty_iff] at hsame
        constructor
        · exact .inl
        · rintro (hmem | ⟨rfl, hstored, rfl, hne⟩)
          · exact hmem
          · exact absurd (Option.some.inj hstored ▸ hsame) hne
      · rename_i hdiffer
        rw [List.isEmpty_iff] at hdiffer
        rw [List.mem_append, List.mem_singleton, RouteChange.mk.injEq]
        refine or_congr_right ?_
        constructor
        · rintro ⟨rfl, rfl, rfl⟩
          exact ⟨rfl, rfl, rfl, hdiffer⟩
        · rintro ⟨rfl, hstored, rfl, _⟩
          obtain rfl := Option.some.inj hstored
          exact ⟨rfl, rfl, rfl⟩

theorem mem_unchanged_classify {r : Route} :
    r ∈ (classify records d e).unchanged ↔
      r ∈ d.unchanged ∨
        (r = e.2 ∧ ∃ record, Table.get? records e.1 = some record ∧ Agrees r record) := by
  unfold classify
  cases hget : Table.get? records e.1 with
  | none => simp
  | some stored =>
      simp only [Option.some.injEq, exists_eq_left']
      split
      · rename_i hsame
        rw [List.isEmpty_iff, changedFields_eq_nil] at hsame
        rw [List.mem_append, List.mem_singleton]
        refine or_congr_right ⟨?_, And.left⟩
        rintro rfl
        exact ⟨rfl, hsame⟩
      · rename_i hdiffer
        rw [List.isEmpty_iff, changedFields_eq_nil] at hdiffer
        refine ⟨.inl, ?_⟩
        rintro (hmem | ⟨rfl, hagrees⟩)
        · exact hmem
        · exact absurd hagrees hdiffer

/-- A route is put in exactly one place. -/
theorem sorted_classify : (classify records d e).sorted.Perm (e.2 :: d.sorted) := by
  unfold classify sorted
  cases Table.get? records e.1 with
  | none =>
      simp only [List.append_assoc, List.singleton_append]
      exact List.perm_middle
  | some record =>
      dsimp only
      split
      · rw [← List.append_assoc]
        exact List.perm_append_singleton _ _
      · rw [List.map_append, List.map_singleton, ← List.append_assoc, List.append_assoc _ [_],
          List.singleton_append]
        exact List.perm_middle

end

/-! ### All routes -/

/-- What the steps of a loop add to a part of the state is there in the end, and nothing else. -/
theorem mem_foldl_iff {σ ε α : Type} {step : σ → ε → σ} (part : σ → List α)
    {brings : ε → α → Prop} (h : ∀ s e x, x ∈ part (step s e) ↔ x ∈ part s ∨ brings e x)
    (es : List ε) (s : σ) (x : α) :
    x ∈ part (es.foldl step s) ↔ x ∈ part s ∨ ∃ e ∈ es, brings e x := by
  induction es generalizing s with
  | nil => simp
  | cons e rest ih => rw [List.foldl_cons, ih, h, List.exists_mem_cons_iff, or_assoc]

section

variable (records : Table RouteKey OverrideRecord) (routes : Table RouteKey Route) (d : RouteDiff)

theorem mem_new_foldl {r : Route} :
    r ∈ (routes.foldl (classify records) d).new ↔
      r ∈ d.new ∨ ∃ e ∈ routes, r = e.2 ∧ Table.get? records e.1 = none := by
  apply mem_foldl_iff RouteDiff.new
  intro d e x
  exact mem_new_classify

theorem mem_updated_foldl {c : RouteChange} :
    c ∈ (routes.foldl (classify records) d).updated ↔
      c ∈ d.updated ∨ ∃ e ∈ routes, c.route = e.2 ∧ Table.get? records e.1 = some c.record ∧
        c.changed = changedFields c.route c.record ∧ c.changed ≠ [] := by
  apply mem_foldl_iff RouteDiff.updated
  intro d e x
  exact mem_updated_classify

theorem mem_unchanged_foldl {r : Route} :
    r ∈ (routes.foldl (classify records) d).unchanged ↔
      r ∈ d.unchanged ∨ ∃ e ∈ routes,
        r = e.2 ∧ ∃ record, Table.get? records e.1 = some record ∧ Agrees r record := by
  apply mem_foldl_iff RouteDiff.unchanged
  intro d e x
  exact mem_unchanged_classify

theorem sorted_foldl :
    (routes.foldl (classify records) d).sorted.Perm (d.sorted ++ Table.values routes) := by
  induction routes generalizing d with
  | nil => simp [Table.values]
  | cons e rest ih =>
      rw [List.foldl_cons]
      refine (ih _).trans ?_
      have hstep : (classify records d e).sorted.Perm (e.2 :: d.sorted) := sorted_classify
      exact (hstep.append_right (Table.values rest)).trans List.perm_middle.symm

end

/-! ### The whole difference -/

/-- What a difference says about live routes and stored records. -/
structure Sorts (live : List Route) (stored : List OverrideRecord) (d : RouteDiff) : Prop where
  /-- No key is there twice, in one place or in two. -/
  nodup : (d.sorted.map Route.key).Nodup
  /-- Every live key is there. -/
  keys : ∀ k, k ∈ d.sorted.map Route.key ↔ ∃ r ∈ live, r.key = k
  /-- The new routes have no record. -/
  new : ∀ r, r ∈ d.new ↔ IsLast Route.key live r ∧ ∀ record ∈ stored, record.key ≠ r.key
  /-- The unchanged routes agree with their records. -/
  unchanged : ∀ r, r ∈ d.unchanged ↔ IsLast Route.key live r ∧
    ∃ record, IsLast OverrideRecord.key stored record ∧ record.key = r.key ∧ Agrees r record
  /-- The updated routes do not, and come with what differs. -/
  updated : ∀ c, c ∈ d.updated ↔ IsLast Route.key live c.route ∧
    IsLast OverrideRecord.key stored c.record ∧ c.record.key = c.route.key ∧
    ¬Agrees c.route c.record ∧ c.changed = changedFields c.route c.record
  /-- What differs is something, each field is named once, and it is every field that differs. -/
  changed : ∀ c ∈ d.updated, c.changed ≠ [] ∧ c.changed.Nodup ∧
    ∀ f, f ∈ c.changed ↔ f.ofRoute c.route ≠ f.ofRecord c.record
  /-- No key of a removed record is there twice. -/
  removed_nodup : (d.removed.map OverrideRecord.key).Nodup
  /-- The removed records are those of keys that are not live. -/
  removed : ∀ record, record ∈ d.removed ↔
    IsLast OverrideRecord.key stored record ∧ ∀ r ∈ live, r.key ≠ record.key

section

variable (live : List Route) (stored : List OverrideRecord)

theorem mem_new_of {r : Route} :
    r ∈ (of live stored).new ↔
      IsLast Route.key live r ∧ ∀ record ∈ stored, record.key ≠ r.key := by
  have hfold : r ∈ (of live stored).new ↔ _ := mem_new_foldl (indexRecords stored) _ _
  rw [hfold, indexRoutes, indexRecords]
  simp only [mem_index, get?_index_eq_none]
  constructor
  · rintro (hnil | ⟨e, ⟨hlast, hkey⟩, rfl, hnone⟩)
    · simp at hnil
    · exact ⟨hlast, hkey ▸ hnone⟩
  · rintro ⟨hlast, hnone⟩
    exact .inr ⟨(r.key, r), ⟨hlast, rfl⟩, rfl, hnone⟩

theorem mem_unchanged_of {r : Route} :
    r ∈ (of live stored).unchanged ↔ IsLast Route.key live r ∧
      ∃ record, IsLast OverrideRecord.key stored record ∧ record.key = r.key ∧
        Agrees r record := by
  have hfold : r ∈ (of live stored).unchanged ↔ _ := mem_unchanged_foldl (indexRecords stored) _ _
  rw [hfold, indexRoutes, indexRecords]
  simp only [mem_index, get?_index]
  constructor
  · rintro (hnil | ⟨e, ⟨hlast, hkey⟩, rfl, record, ⟨hrecord, hstored⟩, hagrees⟩)
    · simp at hnil
    · exact ⟨hlast, record, hrecord, hstored.trans hkey.symm, hagrees⟩
  · rintro ⟨hlast, record, hrecord, hstored, hagrees⟩
    exact .inr ⟨(r.key, r), ⟨hlast, rfl⟩, rfl, record, ⟨hrecord, hstored⟩, hagrees⟩

theorem mem_updated_of {c : RouteChange} :
    c ∈ (of live stored).updated ↔ IsLast Route.key live c.route ∧
      IsLast OverrideRecord.key stored c.record ∧ c.record.key = c.route.key ∧
      ¬Agrees c.route c.record ∧ c.changed = changedFields c.route c.record := by
  have hfold : c ∈ (of live stored).updated ↔ _ := mem_updated_foldl (indexRecords stored) _ _
  rw [hfold, indexRoutes, indexRecords]
  simp only [mem_index, get?_index]
  constructor
  · rintro (hnil | ⟨e, ⟨hlast, hkey⟩, hroute, ⟨hrecord, hstored⟩, hchanged, hne⟩)
    · simp at hnil
    · rw [hchanged, ne_eq, changedFields_eq_nil] at hne
      rw [← hroute] at hlast hkey
      exact ⟨hlast, hrecord, hstored.trans hkey.symm, hne, hchanged⟩
  · rintro ⟨hlast, hrecord, hstored, hdiffer, hchanged⟩
    refine .inr ⟨(c.route.key, c.route), ⟨hlast, rfl⟩, rfl, ⟨hrecord, hstored⟩, hchanged, ?_⟩
    rwa [hchanged, ne_eq, changedFields_eq_nil]

/-- The routes of a difference are those of the index of the live ones. -/
theorem sorted_of : (of live stored).sorted.Perm (Table.values (indexRoutes live)) :=
  sorted_foldl (indexRecords stored) (indexRoutes live) {}

theorem map_key_values_indexRoutes :
    (Table.values (indexRoutes live)).map Route.key = Table.keys (indexRoutes live) := by
  rw [Table.values, Table.keys, List.map_map]
  exact List.map_congr_left fun e he => (mem_index.1 he).2

/-- No two routes of a difference have the same key. -/
theorem nodup_sorted_of : ((of live stored).sorted.map Route.key).Nodup := by
  have hperm := (sorted_of live stored).map Route.key
  rw [map_key_values_indexRoutes] at hperm
  exact hperm.nodup_iff.2 (Table.nodup_keys_ofEntries _)

theorem mem_removed_of {record : OverrideRecord} :
    record ∈ (of live stored).removed ↔
      IsLast OverrideRecord.key stored record ∧ ∀ r ∈ live, r.key ≠ record.key := by
  have hlive : ∀ k, Table.has (indexRoutes live) k = false ↔ ∀ r ∈ live, r.key ≠ k := by
    intro k
    rw [Table.has, Option.isSome_eq_false_iff, Option.isNone_iff_eq_none]
    exact get?_index_eq_none
  have hremoved : (of live stored).removed =
      Table.values ((indexRecords stored).filter fun e => !Table.has (indexRoutes live) e.1) := rfl
  rw [hremoved, Table.values, List.mem_map]
  constructor
  · rintro ⟨e, he, rfl⟩
    obtain ⟨hmem, hnot⟩ := List.mem_filter.1 he
    obtain ⟨hlast, hkey⟩ := mem_index.1 hmem
    rw [Bool.not_eq_true', hlive, ← hkey] at hnot
    exact ⟨hlast, hnot⟩
  · rintro ⟨hlast, hnot⟩
    refine ⟨(record.key, record), List.mem_filter.2 ⟨mem_index.2 ⟨hlast, rfl⟩, ?_⟩, rfl⟩
    rw [Bool.not_eq_true', hlive]
    exact hnot

theorem nodup_removed_of : ((of live stored).removed.map OverrideRecord.key).Nodup := by
  have hkeys : (of live stored).removed.map OverrideRecord.key =
      Table.keys ((indexRecords stored).filter fun e => !Table.has (indexRoutes live) e.1) := by
    change (Table.values _).map OverrideRecord.key = _
    rw [Table.values, Table.keys, List.map_map]
    exact List.map_congr_left fun e he => (mem_index.1 (List.mem_filter.1 he |>.1)).2
  rw [hkeys]
  exact (Table.nodup_keys_ofEntries _).sublist (List.filter_sublist.map _)

/-- **A difference is exact.** Each live key is in one place, with the last route that has it; where it
is, and what is said about it, depends on the last record with the key; and the removed records are
the last ones of the keys that are not live. -/
theorem sorts_of : Sorts live stored (of live stored) where
  nodup := nodup_sorted_of live stored
  keys := by
    intro k
    rw [((sorted_of live stored).map Route.key).mem_iff, map_key_values_indexRoutes]
    exact mem_keys_index
  new := fun _ => mem_new_of live stored
  unchanged := fun _ => mem_unchanged_of live stored
  updated := fun _ => mem_updated_of live stored
  changed := by
    intro c hc
    obtain ⟨_, _, _, hdiffer, hchanged⟩ := (mem_updated_of live stored).1 hc
    rw [hchanged]
    refine ⟨fun hnil => hdiffer (changedFields_eq_nil.1 hnil), nodup_changedFields _ _, fun f => ?_⟩
    exact mem_changedFields
  removed_nodup := nodup_removed_of live stored
  removed := fun _ => mem_removed_of live stored

end

end RouteDiff

end RouteDoc
