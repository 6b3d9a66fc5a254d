import Mathlib.Data.Nat.Init
import Mathlib.Order.Bounds.Defs
import RouteDoc.Operation.Assembly
/-!
# RouteDoc.Proofs.Operation.Identifiers

**An identifier that is handed out is free.** The candidates for a text differ from each other, so
one of as many as there are taken identifiers, and one more, is not taken (`exists_free`), and the
bounded search for one is the search for the first (`firstFree_spec`).

`Finds` is the search without a bound, which tries a text and then the numbers behind it. Whatever
is taken, it ends with what the bounded one returns (`finds_firstFree`); that is the text, or the
text with the least number that makes it free (`leastFree_unique`).

`HandsOut` is what the assembler does for one operation: the identifier was not used before; it is
the one that was asked for, if that was free, and one that nobody asked for otherwise.
-/

namespace RouteDoc

namespace OperationIds

theorem isTaken_iff {ids : OperationIds} {id : String} :
    ids.isTaken id = true ↔ id ∈ ids.used ∨ id ∈ ids.reserved := by
  simp [isTaken]

theorem isTaken_eq_false_iff {ids : OperationIds} {id : String} :
    ids.isTaken id = false ↔ id ∉ ids.used ∧ id ∉ ids.reserved := by
  simp [isTaken]

/-! ### Candidates -/

theorem eq_of_repr_eq {m n : Nat} (h : Nat.repr m = Nat.repr n) : m = n := by
  have hdigits : Nat.toDigits 10 m = Nat.toDigits 10 n := by
    rw [← Nat.toList_repr, ← Nat.toList_repr, h]
  rw [← Nat.ofDigitChars_ten_toDigits (n := m), hdigits, Nat.ofDigitChars_ten_toDigits]

theorem candidate_succ_ne (base : String) (n : Nat) : candidate base (n + 1) ≠ base := by
  intro h
  -- the suffix makes it longer
  have hlength := congrArg String.length h
  simp only [candidate, String.length_append] at hlength
  have hone : "_".length = 1 := rfl
  omega

/-- No two candidates for a text are the same. -/
theorem candidate_injective {base : String} {m n : Nat}
    (h : candidate base m = candidate base n) : m = n := by
  cases m with
  | zero =>
      cases n with
      | zero => rfl
      | succ n => exact absurd h.symm (candidate_succ_ne base n)
  | succ m =>
      cases n with
      | zero => exact absurd h (candidate_succ_ne base m)
      | succ n =>
          have hrepr := eq_of_repr_eq ((String.append_right_inj _).1 h)
          omega

/-! ### The search for a free one -/

/-- One of so many candidates is free. -/
theorem exists_free (ids : OperationIds) (base : String) :
    ∃ k, k < ids.used.length + ids.reserved.length + 1 ∧
      ids.isTaken (candidate base k) = false := by
  refine Classical.byContradiction fun hall => ?_
  -- otherwise so many different candidates would be among fewer taken identifiers
  let count := ids.used.length + ids.reserved.length + 1
  have hsub : (List.range count).map (candidate base) ⊆ ids.used ++ ids.reserved := by
    intro id hid
    obtain ⟨k, hk, rfl⟩ := List.mem_map.1 hid
    rw [List.mem_append, ← isTaken_iff]
    cases htaken : ids.isTaken (candidate base k) with
    | true => rfl
    | false => exact absurd ⟨k, List.mem_range.1 hk, htaken⟩ hall
  have hnodup : ((List.range count).map (candidate base)).Nodup := by
    rw [List.nodup_iff_pairwise_ne, List.pairwise_map]
    exact List.nodup_range.imp fun hne heq => hne (candidate_injective heq)
  have hlength := hnodup.length_le_of_subset hsub
  rw [List.length_map, List.length_range, List.length_append] at hlength
  exact absurd hlength (Nat.not_succ_le_self _)

/-- The search finds the first free candidate. -/
theorem firstFree_spec (ids : OperationIds) (base : String) :
    ∃ k, ids.firstFree base = candidate base k ∧ ids.isTaken (candidate base k) = false ∧
      ∀ j, j < k → ids.isTaken (candidate base j) = true := by
  obtain ⟨k, hk, hfree⟩ := exists_free ids base
  cases hfind : (List.range (ids.used.length + ids.reserved.length + 1)).find?
      (fun j => !ids.isTaken (candidate base j)) with
  | none =>
      have hnone := List.find?_eq_none.1 hfind k (List.mem_range.2 hk)
      rw [hfree] at hnone
      exact absurd rfl hnone
  | some i =>
      obtain ⟨hi, _, hbefore⟩ := List.find?_range_eq_some.1 hfind
      refine ⟨i, ?_, by simpa using hi, fun j hj => by simpa using hbefore j hj⟩
      unfold firstFree
      dsimp only
      rw [List.find?_map]
      have hcomp : ((fun id => !ids.isTaken id) ∘ candidate base) =
          fun j => !ids.isTaken (candidate base j) := rfl
      rw [hcomp, hfind]
      rfl

theorem firstFree_not_mem (ids : OperationIds) (base : String) :
    ids.firstFree base ∉ ids.used ∧ ids.firstFree base ∉ ids.reserved := by
  obtain ⟨k, hk, hfree, _⟩ := firstFree_spec ids base
  rw [hk]
  exact isTaken_eq_false_iff.1 hfree

/-! ### The search without a bound -/

/-- A text with a number behind it. -/
def numbered (base : String) (n : Nat) : String := base ++ "_" ++ Nat.repr n

/-- A run of the search from an identifier on, with the number for the one after it, up to the
identifier it ends with. -/
inductive Finds (ids : OperationIds) (base : String) : String → Nat → String → Prop
  /-- A free identifier ends it. -/
  | found {id : String} {n : Nat} (h : ids.isTaken id = false) : Finds ids base id n id
  /-- A taken one leads to the next number. -/
  | next {id out : String} {n : Nat} (h : ids.isTaken id = true)
      (hrest : Finds ids base (numbered base n) (n + 1) out) : Finds ids base id n out

/-- The search cannot end in two ways. -/
theorem Finds.unique {ids : OperationIds} {base id out other : String} {n : Nat}
    (h : Finds ids base id n out) (hother : Finds ids base id n other) : out = other := by
  induction h with
  | found hfree =>
      cases hother with
      | found => rfl
      | next htaken => exact absurd (hfree.symm.trans htaken) Bool.false_ne_true
  | next htaken hrest ih =>
      cases hother with
      | found hfree => exact absurd (hfree.symm.trans htaken) Bool.false_ne_true
      | next _ hotherRest => exact ih hotherRest

/-- From a candidate on, the search passes over the taken ones up to the first that is free. -/
theorem finds_candidate {ids : OperationIds} {base : String} {j k : Nat} (hj : j ≤ k)
    (hfree : ids.isTaken (candidate base k) = false)
    (htaken : ∀ i, j ≤ i → i < k → ids.isTaken (candidate base i) = true) :
    Finds ids base (candidate base j) (j + 2) (candidate base k) := by
  -- from the last candidate down to the first; the next one after `j` has the number `j + 2`
  induction hj using Nat.decreasingInduction with
  | self => exact .found hfree
  | of_succ j hlt ih =>
      exact .next (htaken j (Nat.le_refl j) hlt) (ih fun i hi => htaken i (Nat.le_of_succ_le hi))

/-- The search ends, and the bounded one returns what it ends with. -/
theorem finds_firstFree (ids : OperationIds) (base : String) :
    Finds ids base base 2 (ids.firstFree base) := by
  obtain ⟨k, hk, hfree, htaken⟩ := ids.firstFree_spec base
  rw [hk]
  exact finds_candidate (Nat.zero_le k) hfree fun i _ hi => htaken i hi

theorem firstFree_of_free {ids : OperationIds} {base : String} (h : ids.isTaken base = false) :
    ids.firstFree base = base :=
  (finds_firstFree ids base).unique (.found h)

/-- A taken text gets the least number from two on that makes it free. -/
theorem firstFree_of_taken {ids : OperationIds} {base : String} (h : ids.isTaken base = true) :
    ∃ k, IsLeast {n | 2 ≤ n ∧ ids.isTaken (numbered base n) = false} k ∧
      ids.firstFree base = numbered base k := by
  obtain ⟨k, hk, hfree, htaken⟩ := ids.firstFree_spec base
  cases k with
  | zero => exact absurd (hfree.symm.trans h) Bool.false_ne_true
  | succ k =>
      refine ⟨k + 2, ⟨⟨Nat.le_add_left 2 k, hfree⟩, ?_⟩, hk⟩
      rintro n ⟨hn, hnfree⟩
      obtain ⟨j, rfl⟩ := Nat.exists_eq_add_of_le' hn
      refine Nat.le_of_not_lt fun hlt => ?_
      have hnumbered : ids.isTaken (numbered base (j + 2)) = true := htaken (j + 1) (by omega)
      exact absurd (hnfree.symm.trans hnumbered) Bool.false_ne_true

/-- What is asked of an identifier that is made from a text and handed out. -/
structure LeastFree (ids : OperationIds) (base id : String) (after : OperationIds) : Prop where
  /-- The search for a free identifier ends, and ends with this one. -/
  finds_iff : ∀ out, Finds ids base base 2 out ↔ out = id
  /-- A text that is neither used nor reserved is the identifier. -/
  eq_base : base ∉ ids.used → base ∉ ids.reserved → id = base
  /-- Any other text gets a number, the least from two on that is neither used nor reserved. -/
  eq_numbered : base ∈ ids.used ∨ base ∈ ids.reserved →
    ∃ k, IsLeast {n | 2 ≤ n ∧ numbered base n ∉ ids.used ∧ numbered base n ∉ ids.reserved} k ∧
      id = numbered base k
  /-- Beside what was used, this identifier alone is used from now on. -/
  mem_used_iff : ∀ other, other ∈ after.used ↔ other ∈ ids.used ∨ other = id
  /-- What is reserved stays the same. -/
  reserved_eq : after.reserved = ids.reserved

/-- **The least free candidate is handed out**, whatever is used and reserved, and it alone is used
from now on. -/
theorem leastFree_unique (ids : OperationIds) (base : String) :
    LeastFree ids base (ids.unique base).1 (ids.unique base).2 where
  finds_iff := by
    intro out
    constructor
    · exact fun h => h.unique (finds_firstFree ids base)
    · rintro rfl
      exact finds_firstFree ids base
  eq_base := fun hused hreserved => firstFree_of_free (isTaken_eq_false_iff.2 ⟨hused, hreserved⟩)
  eq_numbered := by
    intro htaken
    obtain ⟨k, hleast, hk⟩ := firstFree_of_taken (isTaken_iff.2 htaken)
    simp only [isTaken_eq_false_iff] at hleast
    exact ⟨k, hleast, hk⟩
  mem_used_iff := fun other => by simp [unique, take]
  reserved_eq := rfl

/-- A text that ends in a number gets one more. -/
example : (unique { used := ["user_2", "user_2_2"], reserved := ["user_2_3"] } "user_2").1 =
    "user_2_4" := by decide

end OperationIds

/-! ### One operation -/

/-- What handing out an identifier does, for an operation that may have asked for one. -/
structure HandsOut (ids : OperationIds) (asked : Option String) (id : String)
    (after : OperationIds) : Prop where
  /-- The identifier is used from now on. -/
  after_eq : after = ids.take id
  /-- It was not used. -/
  fresh : id ∉ ids.used
  /-- It was asked for, or nobody asks for it. -/
  own : asked = some id ∨ id ∉ ids.reserved
  /-- One that was asked for and is not used is the one. -/
  granted : ∀ wish, asked = some wish → wish ∉ ids.used → id = wish

theorem handsOut_unique (ids : OperationIds) (base : String) :
    HandsOut ids none (ids.unique base).1 (ids.unique base).2 where
  after_eq := rfl
  fresh := (ids.firstFree_not_mem base).1
  own := .inr (ids.firstFree_not_mem base).2
  granted := by simp

theorem handsOut_requested (ids : OperationIds) (wish : String) :
    HandsOut ids (some wish) (ids.requested wish).1 (ids.requested wish).2 := by
  unfold OperationIds.requested
  split
  · -- the wish is used, so it cannot be granted
    rename_i hused
    obtain ⟨hfresh, hfree⟩ := ids.firstFree_not_mem wish
    refine ⟨rfl, hfresh, .inr hfree, fun other hother hunused => ?_⟩
    rw [Option.some.injEq] at hother
    exact absurd (hother ▸ hused) hunused
  · rename_i hunused
    refine ⟨rfl, hunused, .inl rfl, fun other hother _ => ?_⟩
    exact Option.some.inj hother

/-- The identifier that a record asks for. -/
def askedId (record : Option OverrideRecord) : Option String :=
  record.bind OverrideRecord.operationId

theorem Assembler.handsOut_operationId (a : Assembler) (r : Route)
    (record : Option OverrideRecord) :
    HandsOut a.ids (askedId record) (a.operationId r record).1 (a.operationId r record).2 := by
  unfold Assembler.operationId askedId
  cases record.bind OverrideRecord.operationId with
  | none => exact handsOut_unique _ _
  | some wish => exact handsOut_requested _ _

/-- The identifier of an operation that was put together was handed out for it. -/
theorem Assembler.handsOut_assemble {config : GeneratorConfig} {a a' : Assembler} {r : Route}
    {d : Detection} {record : Option OverrideRecord} {o : Operation}
    (h : Assembler.assemble config a r d record = (.ok o, a')) :
    HandsOut a.ids (askedId record) o.operationId a'.ids := by
  unfold Assembler.assemble at h
  dsimp only at h
  split at h
  · simp at h
  · rw [Prod.mk.injEq, Except.ok.injEq] at h
    obtain ⟨rfl, rfl⟩ := h
    exact a.handsOut_operationId r record

end RouteDoc
