/-!
# RouteDoc.Table

**Ordered tables**: keys with a value each, in the order in which the keys were first written.

Every mapping of a document is shown in the order in which it was built, so the order belongs to
the type. A table is a list of pairs:

* `Table.insert` keeps the place of a key that is already there and appends one that is not;
* `Table.get?` reads the first entry of a key, which is the only one in a table that was built
  by insertions (`nodup_keys_insert`);
* a table that was written entry by entry holds each key once (`nodup_keys_ofEntries`);
* the lemmas below say what each operation does to the two views, `get?` and `keys`; together they
  make up a table (`ext_get?`).
-/

namespace RouteDoc

/-- Keys with their values, in order of first insertion. -/
abbrev Table (κ : Type) (α : Type) := List (κ × α)

namespace Table

variable {κ α β : Type}

/-- The keys, in order. -/
def keys (t : Table κ α) : List κ := t.map Prod.fst

/-- The values, in the order of their keys. -/
def values (t : Table κ α) : List α := t.map Prod.snd

/-- Apply a function to every value. -/
def mapValues (f : α → β) (t : Table κ α) : Table κ β := t.map fun e => (e.1, f e.2)

@[simp] theorem keys_nil : keys ([] : Table κ α) = [] := rfl

@[simp] theorem keys_mapValues (f : α → β) (t : Table κ α) : keys (mapValues f t) = keys t := by
  rw [keys, mapValues, List.map_map]
  rfl

variable [DecidableEq κ]

/-- The value under a key. -/
def get? : Table κ α → κ → Option α
  | [], _ => none
  | (k, v) :: rest, key => if k = key then some v else get? rest key

/-- Whether the table holds the key. -/
def has (t : Table κ α) (key : κ) : Bool := (get? t key).isSome

/-- Write a value: in place when the key is there, at the end when it is new. -/
def insert : Table κ α → κ → α → Table κ α
  | [], key, v => [(key, v)]
  | (k, old) :: rest, key, v =>
      if k = key then (k, v) :: rest else (k, old) :: insert rest key v

/-- Write a value only where the key is missing. -/
def insertIfNew (t : Table κ α) (key : κ) (v : α) : Table κ α :=
  if has t key then t else insert t key v

/-- Remove the entry of a key. -/
def erase : Table κ α → κ → Table κ α
  | [], _ => []
  | (k, v) :: rest, key => if k = key then rest else (k, v) :: erase rest key

/-- Insert all entries of a second table, in its order. -/
def insertAll (t new : Table κ α) : Table κ α :=
  new.foldl (fun acc e => insert acc e.1 e.2) t

/-- The table written by a list of entries: a repeated key keeps its first place and its last
value. -/
def ofEntries (entries : List (κ × α)) : Table κ α := insertAll [] entries

/-! ### Reading after writing -/

@[simp] theorem get?_nil (key : κ) : get? ([] : Table κ α) key = none := rfl

theorem get?_insert (t : Table κ α) (key k : κ) (v : α) :
    get? (insert t key v) k = if key = k then some v else get? t k := by
  induction t with
  | nil => simp [insert, get?]
  | cons e rest ih =>
      obtain ⟨j, old⟩ := e
      by_cases hj : j = key
      · subst hj; by_cases hk : j = k <;> simp [insert, get?, hk]
      · by_cases hk : j = k
        · subst hk; simp [insert, get?, hj, Ne.symm hj]
        · simp [insert, get?, hj, hk, ih]

@[simp] theorem get?_insert_self (t : Table κ α) (key : κ) (v : α) :
    get? (insert t key v) key = some v := by simp [get?_insert]

theorem get?_insert_of_ne (t : Table κ α) {key k : κ} (v : α) (h : key ≠ k) :
    get? (insert t key v) k = get? t k := by simp [get?_insert, h]

theorem mem_keys_iff {t : Table κ α} {key : κ} : key ∈ keys t ↔ ∃ v, get? t key = some v := by
  induction t with
  | nil => simp
  | cons e rest ih =>
      obtain ⟨j, v⟩ := e
      by_cases hj : j = key
      · simp [keys, get?, hj]
      · have : key ∈ keys rest ↔ ∃ v, get? rest key = some v := ih
        simp only [keys, List.map_cons, List.mem_cons, get?, if_neg hj, Ne.symm hj, false_or]
        exact this

theorem mem_of_get? {t : Table κ α} {key : κ} {v : α} (h : get? t key = some v) :
    (key, v) ∈ t := by
  induction t with
  | nil => simp at h
  | cons e rest ih =>
      obtain ⟨j, old⟩ := e
      by_cases hj : j = key
      · simp_all [get?]
      · simp only [get?, if_neg hj] at h
        exact List.mem_cons_of_mem _ (ih h)

theorem get?_of_mem {t : Table κ α} {e : κ × α} (h : (keys t).Nodup) (he : e ∈ t) :
    get? t e.1 = some e.2 := by
  induction t with
  | nil => simp at he
  | cons d rest ih =>
      obtain ⟨key, v⟩ := d
      obtain ⟨hkey, hrest⟩ := List.nodup_cons.1 h
      rcases List.mem_cons.1 he with rfl | he
      · simp [get?]
      · have hmem : e.1 ∈ keys rest := List.mem_map_of_mem he
        have hne : key ≠ e.1 := fun heq => hkey (heq ▸ hmem)
        rw [get?, if_neg hne, ih hrest he]

theorem mem_insert {t : Table κ α} {key : κ} {v : α} {e : κ × α} (h : e ∈ insert t key v) :
    e = (key, v) ∨ e ∈ t := by
  induction t with
  | nil => exact .inl (List.mem_singleton.1 h)
  | cons d rest ih =>
      obtain ⟨k, w⟩ := d
      rw [insert] at h
      split at h
      · rename_i hk
        rcases List.mem_cons.1 h with rfl | h
        · exact .inl (by rw [hk])
        · exact .inr (List.mem_cons_of_mem _ h)
      · rcases List.mem_cons.1 h with rfl | h
        · exact .inr List.mem_cons_self
        · exact (ih h).imp_right (List.mem_cons_of_mem _)

/-- To write what is there already changes nothing. -/
theorem insert_of_get? {t : Table κ α} {key : κ} {v : α} (h : get? t key = some v) :
    insert t key v = t := by
  induction t with
  | nil => simp at h
  | cons e rest ih =>
      obtain ⟨j, old⟩ := e
      rw [insert]
      rw [get?] at h
      split
      · rename_i hj
        rw [if_pos hj] at h
        rw [Option.some.inj h]
      · rename_i hj
        rw [if_neg hj] at h
        rw [ih h]

theorem get?_mapValues (f : α → β) (t : Table κ α) (key : κ) :
    get? (mapValues f t) key = (get? t key).map f := by
  induction t with
  | nil => rfl
  | cons e rest ih =>
      obtain ⟨k, v⟩ := e
      rw [mapValues, List.map_cons, get?, get?]
      split
      · rfl
      · exact ih

theorem mapValues_insert (f : α → β) (t : Table κ α) (key : κ) (v : α) :
    mapValues f (insert t key v) = insert (mapValues f t) key (f v) := by
  induction t with
  | nil => rfl
  | cons e rest ih =>
      obtain ⟨k, old⟩ := e
      by_cases h : k = key
      · simp [insert, mapValues, h]
      · simp only [insert, mapValues, List.map_cons, if_neg h]
        rw [← mapValues, ih]
        rfl

theorem get?_append (t more : Table κ α) (k : κ) :
    get? (t ++ more) k = (get? t k).or (get? more k) := by
  induction t with
  | nil => rfl
  | cons e rest ih =>
      rw [List.cons_append, get?, get?]
      split
      · rfl
      · exact ih

theorem get?_eq_none_iff {t : Table κ α} {key : κ} : get? t key = none ↔ key ∉ keys t := by
  rw [mem_keys_iff]
  cases get? t key <;> simp

theorem has_iff_mem_keys {t : Table κ α} {key : κ} : has t key = true ↔ key ∈ keys t := by
  rw [mem_keys_iff, has, Option.isSome_iff_exists]

/-- A table is given by the order of its keys and by what it holds under each. -/
theorem ext_get? {t u : Table κ α} (ht : (keys t).Nodup) (hkeys : keys t = keys u)
    (hget : ∀ k, get? t k = get? u k) : t = u := by
  induction t generalizing u with
  | nil =>
      cases u with
      | nil => rfl
      | cons e rest => simp [keys] at hkeys
  | cons e rest ih =>
      cases u with
      | nil => simp [keys] at hkeys
      | cons d more =>
          obtain ⟨k, v⟩ := e
          obtain ⟨j, v'⟩ := d
          obtain ⟨rfl, htail⟩ : k = j ∧ keys rest = keys more := by simpa [keys] using hkeys
          obtain ⟨hk, hrest⟩ := List.nodup_cons.1 ht
          have hv : v = v' := by simpa [get?] using hget k
          have hmore : rest = more := by
            refine ih hrest htail fun key => ?_
            by_cases hkey : k = key
            · -- the first key is in neither rest
              subst hkey
              rw [get?_eq_none_iff.2 hk, get?_eq_none_iff.2 (htail ▸ hk)]
            · simpa [get?, hkey] using hget key
          rw [hv, hmore]

/-! ### The keys after writing -/

theorem keys_insert_of_mem {t : Table κ α} {key : κ} (v : α) (h : key ∈ keys t) :
    keys (insert t key v) = keys t := by
  induction t with
  | nil => simp at h
  | cons e rest ih =>
      obtain ⟨j, old⟩ := e
      by_cases hj : j = key
      · simp [insert, hj, keys]
      · have hr : key ∈ keys rest := by
          simp only [keys, List.map_cons, List.mem_cons] at h
          rcases h with h | h
          · exact absurd h.symm hj
          · exact h
        simpa [insert, hj, keys] using ih hr

theorem keys_insert_of_not_mem {t : Table κ α} {key : κ} (v : α) (h : key ∉ keys t) :
    keys (insert t key v) = keys t ++ [key] := by
  induction t with
  | nil => simp [insert, keys]
  | cons e rest ih =>
      obtain ⟨j, old⟩ := e
      simp only [keys, List.map_cons, List.mem_cons, not_or] at h
      have hj : j ≠ key := Ne.symm h.1
      simpa [insert, hj, keys] using ih h.2

theorem insert_of_not_mem {t : Table κ α} {key : κ} (v : α) (h : key ∉ keys t) :
    insert t key v = t ++ [(key, v)] := by
  induction t with
  | nil => rfl
  | cons e rest ih =>
      obtain ⟨j, old⟩ := e
      simp only [keys, List.map_cons, List.mem_cons, not_or] at h
      rw [insert, if_neg (Ne.symm h.1), ih h.2, List.cons_append]

theorem mem_keys_insert {t : Table κ α} {key k : κ} {v : α} :
    k ∈ keys (insert t key v) ↔ k = key ∨ k ∈ keys t := by
  by_cases h : key ∈ keys t
  · rw [keys_insert_of_mem v h]
    constructor
    · exact Or.inr
    · rintro (rfl | hk) <;> assumption
  · rw [keys_insert_of_not_mem v h]
    simp [or_comm]

theorem nodup_keys_insert {t : Table κ α} (key : κ) (v : α) (h : (keys t).Nodup) :
    (keys (insert t key v)).Nodup := by
  by_cases hk : key ∈ keys t
  · rwa [keys_insert_of_mem v hk]
  · rw [keys_insert_of_not_mem v hk]
    exact List.nodup_append.2
      ⟨h, by simp, fun a ha b hb => by simp at hb; subst hb; exact fun e => hk (e ▸ ha)⟩

theorem keys_isPrefix_insert (t : Table κ α) (key : κ) (v : α) :
    keys t <+: keys (insert t key v) := by
  by_cases h : key ∈ keys t
  · simp [keys_insert_of_mem v h]
  · rw [keys_insert_of_not_mem v h]
    exact List.prefix_append _ _

/-! ### Removing an entry -/

theorem keys_erase (t : Table κ α) (key : κ) : keys (erase t key) = (keys t).erase key := by
  induction t with
  | nil => rfl
  | cons e rest ih =>
      obtain ⟨j, v⟩ := e
      by_cases hj : j = key
      · simp [erase, hj, keys]
      · have : keys (erase rest key) = (keys rest).erase key := ih
        simpa [erase, hj, keys, List.erase_cons] using this

theorem get?_erase_of_ne (t : Table κ α) {key k : κ} (h : key ≠ k) :
    get? (erase t key) k = get? t k := by
  induction t with
  | nil => rfl
  | cons e rest ih =>
      obtain ⟨j, v⟩ := e
      by_cases hj : j = key
      · simp [erase, get?, hj, h]
      · simp only [erase, if_neg hj, get?, ih]

theorem get?_erase_self {t : Table κ α} (key : κ) (h : (keys t).Nodup) :
    get? (erase t key) key = none := by
  rw [get?_eq_none_iff, keys_erase]
  exact fun hk => (List.Nodup.mem_erase_iff h).1 hk |>.1 rfl

theorem erase_of_get?_eq_none {t : Table κ α} {key : κ} (h : get? t key = none) :
    erase t key = t := by
  induction t with
  | nil => rfl
  | cons e rest ih =>
      obtain ⟨j, v⟩ := e
      by_cases hj : j = key
      · simp [get?, hj] at h
      · simp only [get?, if_neg hj] at h
        rw [erase, if_neg hj, ih h]

/-- At most one entry is removed. -/
theorem length_erase (t : Table κ α) (key : κ) :
    (erase t key).length + (if has t key then 1 else 0) = t.length := by
  induction t with
  | nil => rfl
  | cons e rest ih =>
      obtain ⟨j, v⟩ := e
      by_cases hj : j = key
      · simp [erase, has, get?, hj]
      · rw [erase, if_neg hj, has, get?, if_neg hj, List.length_cons, List.length_cons, ← ih, has]
        omega

theorem nodup_keys_erase {t : Table κ α} (key : κ) (h : (keys t).Nodup) :
    (keys (erase t key)).Nodup := by
  rw [keys_erase]
  exact h.erase key

/-! ### Writing where nothing is -/

theorem get?_insertIfNew (t : Table κ α) (key k : κ) (v : α) :
    get? (insertIfNew t key v) k =
      if key = k then some ((get? t key).getD v) else get? t k := by
  unfold insertIfNew has
  by_cases hk : key = k
  · subst hk
    cases h : get? t key <;> simp [h]
  · cases h : get? t key <;> simp [hk, get?_insert]

theorem mem_insertIfNew {t : Table κ α} {key : κ} {v : α} {e : κ × α}
    (h : e ∈ insertIfNew t key v) : e = (key, v) ∨ e ∈ t := by
  unfold insertIfNew at h
  split at h
  · exact .inr h
  · exact mem_insert h

/-- What is there stays there. -/
theorem get?_insertIfNew_of_some {t : Table κ α} {k : κ} {old : α} (h : get? t k = some old)
    (key : κ) (v : α) : get? (insertIfNew t key v) k = some old := by
  rw [get?_insertIfNew]
  split
  · rename_i hk
    rw [hk, h, Option.getD_some]
  · exact h

theorem mem_keys_insertIfNew {t : Table κ α} {key k : κ} {v : α} :
    k ∈ keys (insertIfNew t key v) ↔ k = key ∨ k ∈ keys t := by
  unfold insertIfNew
  by_cases h : has t key = true
  · rw [if_pos h]
    exact ⟨Or.inr, fun hk => hk.elim (fun e => e ▸ has_iff_mem_keys.1 h) id⟩
  · rw [if_neg h, mem_keys_insert]

theorem nodup_keys_insertIfNew {t : Table κ α} (key : κ) (v : α) (h : (keys t).Nodup) :
    (keys (insertIfNew t key v)).Nodup := by
  unfold insertIfNew
  split
  · exact h
  · exact nodup_keys_insert key v h

/-! ### Writing many entries -/

@[simp] theorem insertAll_nil (t : Table κ α) : insertAll t [] = t := rfl

@[simp] theorem insertAll_cons (t : Table κ α) (e : κ × α) (new : Table κ α) :
    insertAll t (e :: new) = insertAll (insert t e.1 e.2) new := rfl

theorem mem_keys_insertAll {t new : Table κ α} {k : κ} :
    k ∈ keys (insertAll t new) ↔ k ∈ keys t ∨ k ∈ keys new := by
  induction new generalizing t with
  | nil => simp
  | cons e rest ih =>
      have : k ∈ keys (e :: rest) ↔ k = e.1 ∨ k ∈ keys rest := List.mem_cons
      rw [insertAll_cons, ih, mem_keys_insert, this]
      exact ⟨fun h => h.elim (·.elim (Or.inr ∘ Or.inl) Or.inl) (Or.inr ∘ Or.inr),
        fun h => h.elim (Or.inl ∘ Or.inr) (·.elim (Or.inl ∘ Or.inl) Or.inr)⟩

theorem keys_isPrefix_insertAll (t new : Table κ α) : keys t <+: keys (insertAll t new) := by
  induction new generalizing t with
  | nil => exact List.prefix_refl _
  | cons e rest ih => exact (keys_isPrefix_insert t e.1 e.2).trans (ih _)

/-- Where the new entries have a key, it is theirs. -/
theorem get?_insertAll (t : Table κ α) {new : Table κ α} (h : (keys new).Nodup) (k : κ) :
    get? (insertAll t new) k = (get? new k).or (get? t k) := by
  induction new generalizing t with
  | nil => rfl
  | cons e rest ih =>
      obtain ⟨key, v⟩ := e
      obtain ⟨hkey, hrest⟩ := List.nodup_cons.1 h
      rw [insertAll_cons, ih _ hrest, get?_insert]
      by_cases hk : key = k
      · subst hk
        have hnone : get? rest key = none := get?_eq_none_iff.2 hkey
        simp [get?, hnone]
      · simp [get?, hk]

theorem get?_insertAll_of_not_mem (t : Table κ α) {new : Table κ α} {k : κ} (h : k ∉ keys new) :
    get? (insertAll t new) k = get? t k := by
  induction new generalizing t with
  | nil => rfl
  | cons e rest ih =>
      obtain ⟨hne, hrest⟩ := not_or.1 (mt List.mem_cons.2 h)
      rw [insertAll_cons, ih _ hrest, get?_insert_of_ne t e.2 (Ne.symm hne)]

/-- What is there after writing many entries is one of them, or was there before. -/
theorem mem_of_get?_insertAll {t new : Table κ α} {k : κ} {v : α}
    (h : get? (insertAll t new) k = some v) : (k, v) ∈ new ∨ get? t k = some v := by
  induction new generalizing t with
  | nil => exact .inr h
  | cons e rest ih =>
      rw [insertAll_cons] at h
      rcases ih h with hrest | hfirst
      · exact .inl (List.mem_cons_of_mem _ hrest)
      · rw [get?_insert] at hfirst
        split at hfirst
        · rename_i hk
          have hentry : (k, v) = e := Prod.ext hk.symm (Option.some.inj hfirst).symm
          exact .inl (hentry ▸ List.mem_cons_self)
        · exact .inr hfirst

theorem mapValues_insertAll (f : α → β) (t new : Table κ α) :
    mapValues f (insertAll t new) = insertAll (mapValues f t) (mapValues f new) := by
  induction new generalizing t with
  | nil => rfl
  | cons e rest ih =>
      rw [insertAll_cons, ih, mapValues_insert]
      rfl

theorem mapValues_ofEntries (f : α → β) (entries : List (κ × α)) :
    mapValues f (ofEntries entries) = ofEntries (mapValues f entries) :=
  mapValues_insertAll f [] entries

theorem insertAll_append (t new more : Table κ α) :
    insertAll t (new ++ more) = insertAll (insertAll t new) more :=
  List.foldl_append

theorem insert_append_of_not_mem {before : Table κ α} {k : κ} (h : k ∉ keys before)
    (rest : Table κ α) (v : α) : insert (before ++ rest) k v = before ++ insert rest k v := by
  induction before with
  | nil => rfl
  | cons e before ih =>
      obtain ⟨j, old⟩ := e
      simp only [keys, List.map_cons, List.mem_cons, not_or] at h
      rw [List.cons_append, insert, if_neg (Ne.symm h.1), ih h.2, List.cons_append]

/-- Entries under other keys come after those of a table. -/
theorem insertAll_append_of_disjoint {t : Table κ α} (more : Table κ α) {new : Table κ α}
    (h : ∀ k ∈ keys new, k ∉ keys t) : insertAll (t ++ more) new = t ++ insertAll more new := by
  induction new generalizing more with
  | nil => rfl
  | cons e rest ih =>
      have hfirst : e.1 ∉ keys t := h e.1 List.mem_cons_self
      have hrest : ∀ k ∈ keys rest, k ∉ keys t := fun k hk => h k (List.mem_cons_of_mem _ hk)
      rw [insertAll_cons, insert_append_of_not_mem hfirst, ih _ hrest, insertAll_cons]

theorem nodup_keys_insertAll {t : Table κ α} (new : Table κ α) (h : (keys t).Nodup) :
    (keys (insertAll t new)).Nodup := by
  induction new generalizing t with
  | nil => exact h
  | cons e rest ih => exact ih (nodup_keys_insert e.1 e.2 h)

/-- Every table that is written entry by entry holds each key once. -/
theorem nodup_keys_ofEntries (entries : List (κ × α)) : (keys (ofEntries entries)).Nodup :=
  nodup_keys_insertAll entries List.nodup_nil

/-! ### Tables laid over one another -/

theorem insert_insert_self (t : Table κ α) (key : κ) (old v : α) :
    insert (insert t key old) key v = insert t key v := by
  induction t with
  | nil => simp [insert]
  | cons e rest ih =>
      obtain ⟨j, w⟩ := e
      by_cases hj : j = key <;> simp [insert, hj, ih]

/-- A key that is there can be written before or after another one. -/
theorem insert_comm_of_mem {t : Table κ α} {key other : κ} (hkey : key ∈ keys t)
    (hne : other ≠ key) (v w : α) :
    insert (insert t other w) key v = insert (insert t key v) other w := by
  induction t with
  | nil => simp at hkey
  | cons e rest ih =>
      obtain ⟨j, old⟩ := e
      by_cases hj : j = key
      · subst hj
        simp [insert, Ne.symm hne]
      · have hrest : key ∈ keys rest := (List.mem_cons.1 hkey).resolve_left (Ne.symm hj)
        by_cases ho : j = other
        · subst ho
          simp [insert, hj]
        · simp [insert, hj, ho, ih hrest]

/-- A key that is there can be written before or after many others. -/
theorem insert_insertAll_of_not_mem {t new : Table κ α} {key : κ} (hkey : key ∈ keys t)
    (hnew : key ∉ keys new) (v : α) :
    insert (insertAll t new) key v = insertAll (insert t key v) new := by
  induction new generalizing t with
  | nil => rfl
  | cons e rest ih =>
      obtain ⟨hne, hrest⟩ := not_or.1 (mt List.mem_cons.2 hnew)
      rw [insertAll_cons, insertAll_cons, ih (mem_keys_insert.2 (.inr hkey)) hrest,
        insert_comm_of_mem hkey (Ne.symm hne)]

theorem insertAll_insert (t : Table κ α) {new : Table κ α} (h : (keys new).Nodup) (key : κ)
    (v : α) : insertAll t (insert new key v) = insert (insertAll t new) key v := by
  induction new generalizing t with
  | nil => rfl
  | cons e rest ih =>
      obtain ⟨j, old⟩ := e
      obtain ⟨hj, hrest⟩ := List.nodup_cons.1 h
      by_cases hkey : j = key
      · subst hkey
        rw [insert, if_pos rfl, insertAll_cons, insertAll_cons,
          insert_insertAll_of_not_mem (mem_keys_insert.2 (.inl rfl)) hj, insert_insert_self]
      · rw [insert, if_neg hkey, insertAll_cons, insertAll_cons, ih _ hrest]

theorem insertAll_insertAll (t : Table κ α) {new : Table κ α} (h : (keys new).Nodup)
    (more : Table κ α) : insertAll t (insertAll new more) = insertAll (insertAll t new) more := by
  induction more generalizing new with
  | nil => rfl
  | cons e rest ih =>
      rw [insertAll_cons, insertAll_cons, ih (nodup_keys_insert _ _ h), insertAll_insert _ h]

/-- It does not matter whether entries are written to a table or to one that is laid over it. -/
theorem insertAll_ofEntries (t : Table κ α) (entries : List (κ × α)) :
    insertAll t (ofEntries entries) = insertAll t entries := by
  have hnil : (keys ([] : Table κ α)).Nodup := List.nodup_nil
  exact insertAll_insertAll t hnil entries

/-- The last entry of a key is the one that counts. -/
theorem get?_ofEntries_of_last {before later : List (κ × α)} {key : κ} (h : key ∉ keys later)
    (v : α) : get? (ofEntries (before ++ (key, v) :: later)) key = some v := by
  rw [ofEntries, insertAll_append, insertAll_cons, get?_insertAll_of_not_mem _ h, get?_insert_self]

/-! ### Keeping some of the keys -/

theorem filter_insert (p : κ → Bool) (t : Table κ α) (key : κ) (v : α) :
    (insert t key v).filter (fun e => p e.1) =
      if p key then insert (t.filter fun e => p e.1) key v else t.filter fun e => p e.1 := by
  induction t with
  | nil => cases h : p key <;> simp [insert, h]
  | cons e rest ih =>
      obtain ⟨j, old⟩ := e
      by_cases hj : j = key
      · subst hj
        cases h : p j <;> simp [insert, h]
      · -- the first entry stays where it is, if it is kept
        rw [insert, if_neg hj, List.filter_cons, List.filter_cons, ih]
        cases p j <;> cases p key <;> simp [insert, hj]

/-- It does not matter whether keys are left out before or after writing. -/
theorem filter_insertAll (p : κ → Bool) (t new : Table κ α) :
    (insertAll t new).filter (fun e => p e.1) =
      insertAll (t.filter fun e => p e.1) (new.filter fun e => p e.1) := by
  induction new generalizing t with
  | nil => rfl
  | cons e rest ih =>
      rw [insertAll_cons, ih, filter_insert, List.filter_cons]
      cases p e.1 <;> simp

end Table

end RouteDoc
