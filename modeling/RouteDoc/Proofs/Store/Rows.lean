import Mathlib.Data.List.Nodup
import RouteDoc.Store.Rows
/-!
# RouteDoc.Proofs.Store.Rows

**Numbered rows as a table.** When no two rows share a key, rows hold what a table holds: the key of
a row and its columns, in the order of the numbers. `Rows.Holds` says so of rows and a table; each
operation on rows is then one operation on the table:

* `Holds.find?` looks a key up;
* `Holds.upsert` writes under a key, in place or behind the rest;
* `Holds.delete` erases a key, and tells whether it was there.

The numbers matter for writing only: the row that was found is addressed by its number, so no other
row may have it.
-/

namespace RouteDoc

/-! ### Tables around one entry -/

namespace Table

variable {κ α : Type} [DecidableEq κ]

theorem get?_append_of_not_mem {before : Table κ α} {k : κ} (h : k ∉ keys before)
    (rest : Table κ α) : get? (before ++ rest) k = get? rest k := by
  rw [get?_append, get?_eq_none_iff.2 h, Option.none_or]

/-- A key that is there once is erased by keeping the others. -/
theorem erase_eq_filter {t : Table κ α} (h : (keys t).Nodup) (k : κ) :
    erase t k = t.filter fun e => e.1 ≠ k := by
  induction t with
  | nil => rfl
  | cons e rest ih =>
      obtain ⟨j, v⟩ := e
      obtain ⟨hj, hrest⟩ := List.nodup_cons.1 h
      by_cases hk : j = k
      · have hothers : ∀ e ∈ rest, decide (e.1 ≠ k) = true := by
          intro e he
          refine decide_eq_true fun heq => hj ?_
          exact List.mem_map.2 ⟨e, he, heq.trans hk.symm⟩
        rw [erase, if_pos hk, List.filter_cons_of_neg (by simpa using hk),
          List.filter_eq_self.2 hothers]
      · rw [erase, if_neg hk, List.filter_cons_of_pos (by simpa using hk), ih hrest]

theorem length_filter_key {t : Table κ α} (h : (keys t).Nodup) (k : κ) :
    (t.filter fun e => e.1 = k).length = if has t k then 1 else 0 := by
  induction t with
  | nil => rfl
  | cons e rest ih =>
      obtain ⟨j, v⟩ := e
      obtain ⟨hj, hrest⟩ := List.nodup_cons.1 h
      by_cases hk : j = k
      · have hnone : get? rest k = none := get?_eq_none_iff.2 (hk ▸ hj)
        have hzero := ih hrest
        rw [has, hnone] at hzero
        rw [List.filter_cons_of_pos (by simpa using hk), List.length_cons, hzero, has, get?,
          if_pos hk]
        rfl
      · rw [List.filter_cons_of_neg (by simpa using hk), ih hrest, has, has, get?, if_neg hk]

end Table

/-- The columns of a row with their key. -/
def Row.entry {α κ : Type} (key : α → κ) (row : Row α) : κ × α := (key row.columns, row.columns)

namespace Rows

variable {α κ : Type}

/-- The rows as a table, by a key of their columns. -/
def byKey (key : α → κ) (t : Rows α) : Table κ α := t.rows.map (Row.entry key)

/-- Rows hold what a table holds. -/
structure Holds (key : α → κ) (t : Rows α) (s : Table κ α) : Prop where
  /-- The table is the one of the rows. -/
  table : s = t.byKey key
  /-- No key is there twice. -/
  nodup : (Table.keys s).Nodup
  /-- No number is given twice, -/
  numbered : (t.rows.map Row.id).Nodup
  /-- and the next one is free. -/
  fresh : ∀ row ∈ t.rows, row.id < t.next

variable {key : α → κ} {t : Rows α} {s : Table κ α}

theorem holds_nil (key : α → κ) (next : Nat) : Holds key { rows := [], next } [] where
  table := rfl
  nodup := List.nodup_nil
  numbered := List.nodup_nil
  fresh := by simp

theorem Holds.all (h : Holds key t s) : t.all = Table.values s := by
  rw [h.table, byKey, Table.values, List.map_map]
  rfl

theorem Holds.key_eq (h : Holds key t s) {e : κ × α} (he : e ∈ s) : e.1 = key e.2 := by
  rw [h.table] at he
  obtain ⟨row, _, rfl⟩ := List.mem_map.1 he
  rfl

/-! ### One row -/

/-- To change the row of a number is to change one row, where numbers are given once. -/
theorem rows_update {before after : List (Row α)} {row : Row α}
    (hrows : t.rows = before ++ row :: after) (h : (t.rows.map Row.id).Nodup) (f : α → α) :
    (t.update row.id f).rows = before ++ { row with columns := f row.columns } :: after := by
  rw [hrows, List.map_append, List.map_cons] at h
  obtain ⟨_, htail, hdisjoint⟩ := List.nodup_append.1 h
  have hkeep : ∀ rows : List (Row α), (∀ r ∈ rows, r.id ≠ row.id) →
      (rows.map fun r => if r.id = row.id then { r with columns := f r.columns } else r) = rows := by
    intro rows hne
    refine (List.map_congr_left fun r hr => ?_).trans (List.map_id rows)
    rw [if_neg (hne r hr)]
    rfl
  have hbefore := hkeep before fun r hr =>
    hdisjoint r.id (List.mem_map_of_mem hr) row.id List.mem_cons_self
  have hafter := hkeep after fun r hr heq =>
    (List.nodup_cons.1 htail).1 (heq ▸ List.mem_map_of_mem hr)
  rw [update, hrows, List.map_append, List.map_cons, hbefore, hafter, if_pos rfl]

variable [DecidableEq κ]

/-- A new row stands behind the others, as a new key does in the table. -/
theorem Holds.append (h : Holds key t s) {new : α} (hnew : Table.get? s (key new) = none) :
    Holds key (t.append new) (Table.insert s (key new) new) := by
  refine ⟨?_, Table.nodup_keys_insert _ _ h.nodup, ?_, fun r hr => ?_⟩
  · rw [Table.insert_of_not_mem _ (Table.get?_eq_none_iff.1 hnew), h.table, byKey, byKey,
      Rows.append, List.map_append]
    rfl
  · rw [Rows.append, List.map_append, List.nodup_append]
    refine ⟨h.numbered, List.nodup_singleton _, fun id hid id' hid' heq => ?_⟩
    -- all numbers so far are below the one of the new row
    obtain ⟨row, hrow, rfl⟩ := List.mem_map.1 hid
    obtain rfl := List.mem_singleton.1 hid'
    have hlt := h.fresh row hrow
    dsimp only at heq
    omega
  · rcases List.mem_append.1 hr with hold | hlast
    · exact Nat.lt_succ_of_lt (h.fresh r hold)
    · obtain rfl := List.mem_singleton.1 hlast
      exact Nat.lt_succ_self _

section

-- rows are asked for by a condition that amounts to a key
variable {p : α → Bool} {k : κ} (hp : ∀ a, p a = true ↔ key a = k)

include hp

/-! ### Looking a key up -/

omit [DecidableEq κ] in
/-- The row that is found is the first of its key; those before it have other keys. -/
theorem find?_some {row : Row α} (hrow : t.find? p = some row) :
    ∃ before after, t.rows = before ++ row :: after ∧ row.entry key = (k, row.columns) ∧
      k ∉ Table.keys (before.map (Row.entry key)) := by
  obtain ⟨hcolumns, before, after, hrows, hbefore⟩ := List.find?_eq_some_iff_append.1 hrow
  refine ⟨before, after, hrows, Prod.ext ((hp _).1 hcolumns) rfl, fun hk => ?_⟩
  rw [Table.keys, List.map_map] at hk
  obtain ⟨other, hother, hkey⟩ := List.mem_map.1 hk
  have hnot := hbefore other hother
  rw [(hp _).2 hkey] at hnot
  simp at hnot

theorem Holds.get?_eq_none (h : Holds key t s) (hrow : t.find? p = none) :
    Table.get? s k = none := by
  rw [Table.get?_eq_none_iff, h.table, Table.keys, byKey, List.map_map]
  intro hk
  obtain ⟨row, hmem, hkey⟩ := List.mem_map.1 hk
  exact List.find?_eq_none.1 hrow row hmem ((hp _).2 hkey)

theorem Holds.find? (h : Holds key t s) :
    (t.find? p).map Row.columns = Table.get? s k := by
  cases hrow : t.find? p with
  | none => exact (h.get?_eq_none hp hrow).symm
  | some row =>
      obtain ⟨before, after, hrows, hentry, hbefore⟩ := find?_some hp hrow
      rw [h.table, byKey, hrows, List.map_append, List.map_cons, hentry,
        Table.get?_append_of_not_mem hbefore, Table.get?, if_pos rfl]
      rfl

/-! ### Writing under a key -/

/-- A row that is changed keeps its place, as its key does in the table. -/
theorem Holds.update (h : Holds key t s) {row : Row α} (hrow : t.find? p = some row) {f : α → α}
    (hk : key (f row.columns) = k) :
    Holds key (t.update row.id f) (Table.insert s k (f row.columns)) := by
  obtain ⟨before, after, hrows, hentry, hbefore⟩ := find?_some hp hrow
  have hupdated := rows_update hrows h.numbered f
  have hids : (t.update row.id f).rows.map Row.id = t.rows.map Row.id := by
    rw [hupdated, hrows]
    simp
  refine ⟨?_, Table.nodup_keys_insert _ _ h.nodup, hids ▸ h.numbered, fun r hr => ?_⟩
  · have hnew : Row.entry key { row with columns := f row.columns } = (k, f row.columns) :=
      Prod.ext hk rfl
    rw [h.table, byKey, byKey, hupdated, hrows, List.map_append, List.map_append, List.map_cons,
      List.map_cons, hentry, hnew, Table.insert_append_of_not_mem hbefore, Table.insert, if_pos rfl]
  · have hid : r.id ∈ t.rows.map Row.id := hids ▸ List.mem_map_of_mem hr
    obtain ⟨old, hold, heq⟩ := List.mem_map.1 hid
    exact heq ▸ h.fresh old hold

/-- **Writing under a key** changes its row, or puts a new one behind the others; the table takes the
same value under the key. -/
theorem Holds.upsert (h : Holds key t s) (new : α) (f : α → α) (hnew : key new = k)
    (hf : ∀ a, key a = k → key (f a) = k) :
    Holds key (t.upsert p new f) (Table.insert s k (((Table.get? s k).map f).getD new)) := by
  have hfind := h.find? hp
  unfold Rows.upsert
  cases hrow : t.find? p with
  | none =>
      rw [h.get?_eq_none hp hrow]
      subst hnew
      exact h.append (h.get?_eq_none hp hrow)
  | some row =>
      obtain ⟨_, _, _, hentry, _⟩ := find?_some hp hrow
      rw [hrow, Option.map_some] at hfind
      rw [← hfind]
      exact h.update hp hrow (hf _ (congrArg Prod.fst hentry))

/-- A value that is written as a whole does not depend on the one that stood there. -/
theorem Holds.replace (h : Holds key t s) (new : α) (hnew : key new = k) :
    Holds key (t.upsert p new fun _ => new) (Table.insert s k new) := by
  have hwritten := h.upsert hp new (fun _ => new) hnew fun _ _ => hnew
  have hvalue : ((Table.get? s k).map fun _ => new).getD new = new := by
    cases Table.get? s k <;> rfl
  rwa [hvalue] at hwritten

/-! ### Erasing a key -/

theorem Holds.delete (h : Holds key t s) :
    Holds key (t.delete p).2 (Table.erase s k) ∧
      (t.delete p).1 = if Table.has s k then 1 else 0 := by
  have hcond : ∀ row : Row α, p row.columns = decide ((row.entry key).1 = k) := by
    intro row
    rw [Bool.eq_iff_iff, decide_eq_true_iff]
    exact hp row.columns
  constructor
  · refine ⟨?_, Table.nodup_keys_erase _ h.nodup, ?_, fun row hrow => ?_⟩
    · rw [Table.erase_eq_filter h.nodup, h.table, byKey, byKey, List.filter_map]
      simp only [Rows.delete, hcond, ne_eq, decide_not]
      rfl
    · exact h.numbered.sublist (List.filter_sublist.map _)
    · exact h.fresh row (List.mem_filter.1 hrow).1
  · rw [← Table.length_filter_key h.nodup, h.table, byKey, List.filter_map, List.length_map]
    simp only [Rows.delete, hcond]
    rfl

end

end Rows

end RouteDoc
