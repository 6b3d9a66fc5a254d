import Mathlib.Data.List.Induction
import RouteDoc.Source.Resource
/-!
# RouteDoc.Proofs.Source.References

**Resources as a graph.** What the method of a resource tells by itself (`SourceIndex.own?`) does not
depend on any other resource; the resources that it refers to span a graph over the code base.

* `Leads k a b` is a chain of `k` references; a reference of a resource to itself is none, because it
  is never followed.
* `Bounded n a` says that no chain from a resource is longer than `n`; it can be decided
  (`bounded_iff_within`), and excludes cycles (`Bounded.not_cyclic`). `Clear c d` asks this only of
  the chains that lead through what another resource leads to.
* `unfolded n a` is the resource with everything that it leads to in `n` steps, found without keeping
  anything.
-/

namespace RouteDoc.Source

open RouteDoc.Text

namespace SourceIndex

variable (index : SourceIndex)

/-- What the method of a resource tells by itself, when there are such a class and such a method. -/
def own? (name : String) : Option OwnShape := do
  let (file, found) ← index.class? name
  let method ← found.method? "toArray"
  some (file.ownShape (ClassName.base name) method)

/-- The schema of a resource. -/
def ownSchema (name : String) : Fragment :=
  ((index.own? name).map OwnShape.schema).getD Shape.unknownSchema

/-- The other resources that a resource refers to. -/
def references (name : String) : List String :=
  (((index.own? name).map OwnShape.references).getD []).filter (· ≠ name)

/-- One resource refers to another one. -/
def RefersTo (a b : String) : Prop := b ∈ index.references a

/-- A chain of references of some length leads from one resource to another. -/
inductive Leads : Nat → String → String → Prop where
  | here (a : String) : Leads 0 a a
  | step {k : Nat} {a b c : String} (first : index.RefersTo a b) (rest : Leads k b c) :
      Leads (k + 1) a c

/-- No chain of references from a resource is longer than some bound. -/
def Bounded (n : Nat) (a : String) : Prop := ∀ k b, index.Leads k a b → k ≤ n

/-- No chain of references from a resource `c` that comes through something that `d` leads to is
longer than the levels. -/
def Clear (c d : String) : Prop :=
  ∀ i j k a b, index.Leads i d a → index.Leads j c a → index.Leads k a b → j + k ≤ maxLevels

variable {index}

theorem references_of_own?_eq_none {name : String} (h : index.own? name = none) :
    index.references name = [] := by
  simp [references, h]

theorem RefersTo.ne {a b : String} (h : index.RefersTo a b) : b ≠ a := by
  simpa using (List.mem_filter.1 h).2

theorem RefersTo.own?_ne_none {a b : String} (h : index.RefersTo a b) : index.own? a ≠ none := by
  intro hnone
  rw [RefersTo, references_of_own?_eq_none hnone] at h
  exact absurd h List.not_mem_nil

/-! ### Chains -/

theorem Leads.trans {j k : Nat} {a b c : String} (h : index.Leads j a b) (h' : index.Leads k b c) :
    index.Leads (j + k) a c := by
  induction h with
  | here => rwa [Nat.zero_add]
  | step first _ ih =>
      rw [Nat.add_right_comm]
      exact .step first (ih h')

theorem Leads.one {a b : String} (h : index.RefersTo a b) : index.Leads 1 a b := .step h (.here b)

/-- Resources that refer to each other only are not left by a chain. -/
theorem Leads.mem_of_closed {names : List String} {k : Nat} {a b : String}
    (hclosed : ∀ a ∈ names, ∀ b ∈ index.references a, b ∈ names) (h : index.Leads k a b)
    (ha : a ∈ names) : b ∈ names := by
  induction h with
  | here => exact ha
  | step first _ ih => exact ih (hclosed _ ha _ first)

/-- A chain ends with a reference. -/
theorem Leads.last {k : Nat} {a c : String} (h : index.Leads (k + 1) a c) :
    ∃ b, index.Leads k a b ∧ index.RefersTo b c := by
  induction k generalizing a with
  | zero =>
      cases h with
      | step first rest =>
          cases rest
          exact ⟨a, .here a, first⟩
  | succ k ih =>
      cases h with
      | step first rest =>
          obtain ⟨b, hb, hlast⟩ := ih rest
          exact ⟨b, .step first hb, hlast⟩

theorem Bounded.of_refersTo {n : Nat} {a b : String} (h : index.Bounded (n + 1) a)
    (hab : index.RefersTo a b) : index.Bounded n b := by
  intro k c hc
  have hk := h (k + 1) c (.step hab hc)
  omega

theorem Bounded.references_eq_nil {a : String} (h : index.Bounded 0 a) :
    index.references a = [] := by
  refine List.eq_nil_iff_forall_not_mem.2 fun b hb => ?_
  have hk := h 1 b (.one hb)
  omega

/-- A resource with bounded chains is on no cycle: one could go round as often as one likes. -/
theorem Bounded.not_cyclic {n : Nat} {a : String} (h : index.Bounded n a) (k : Nat) :
    ¬ index.Leads (k + 1) a a := by
  intro hcycle
  have hround : ∀ m, ∃ j ≥ m, index.Leads j a a := by
    intro m
    induction m with
    | zero => exact ⟨0, Nat.le_refl 0, .here a⟩
    | succ m ih =>
        obtain ⟨j, hj, hja⟩ := ih
        exact ⟨j + (k + 1), by omega, hja.trans hcycle⟩
  obtain ⟨j, hj, hja⟩ := hround (n + 1)
  have hn := h j a hja
  omega

theorem Bounded.clear {c : String} (h : index.Bounded maxLevels c) (d : String) :
    index.Clear c d := by
  intro i j k a b _ hc hab
  exact h (j + k) b (hc.trans hab)

/-- Resources that refer to each other only are clear of all that lead elsewhere. -/
theorem clear_of_closed {names : List String} {c d : String}
    (hclosed : ∀ a ∈ names, ∀ b ∈ index.references a, b ∈ names) (hd : d ∈ names)
    (hc : ∀ k, ∀ a ∈ names, ¬ index.Leads k c a) : index.Clear c d := by
  intro i j k a b hda hca _
  exact absurd hca (hc j a (hda.mem_of_closed hclosed hd))

/-! ### Deciding how long chains are -/

/-- Whether chains of references end within some number of steps. -/
def within (index : SourceIndex) : Nat → String → Bool
  | 0, a => (index.references a).isEmpty
  | n + 1, a => (index.references a).all (index.within n)

theorem bounded_iff_within {n : Nat} {a : String} :
    index.Bounded n a ↔ index.within n a = true := by
  induction n generalizing a with
  | zero =>
      rw [within, List.isEmpty_iff]
      refine ⟨Bounded.references_eq_nil, fun h k b hb => ?_⟩
      cases hb with
      | here => exact Nat.le_refl 0
      | step first _ =>
          rw [RefersTo, h] at first
          exact absurd first List.not_mem_nil
  | succ n ih =>
      rw [within, List.all_eq_true]
      refine ⟨fun h b hb => ih.1 (h.of_refersTo hb), fun h k c hc => ?_⟩
      cases hc with
      | here => exact Nat.zero_le _
      | step first rest => exact Nat.succ_le_succ (ih.2 (h _ first) _ _ rest)

instance (n : Nat) (a : String) : Decidable (index.Bounded n a) :=
  decidable_of_iff _ bounded_iff_within.symm

/-! ### A resource with all that it leads to -/

/-- A resource with some components. -/
def schemaWith (index : SourceIndex) (name : String) (components : Table String Fragment) :
    ResourceSchema :=
  { name := ClassName.base name, schema := index.ownSchema name, components }

/-- A resource with everything that it leads to within some number of steps. -/
def unfolded (index : SourceIndex) : Nat → String → ResourceSchema
  | 0, name => index.schemaWith name []
  | n + 1, name =>
      index.schemaWith name (((index.references name).map (index.unfolded n)).foldl addResource [])

/-- Steps beyond the longest chain add nothing. -/
theorem Bounded.unfolded_eq {n m : Nat} {a : String} (h : index.Bounded n a) (hnm : n ≤ m) :
    index.unfolded m a = index.unfolded n a := by
  induction n generalizing m a with
  | zero =>
      cases m with
      | zero => rfl
      | succ m => rw [unfolded, unfolded, h.references_eq_nil]; rfl
  | succ n ih =>
      obtain ⟨m, rfl⟩ : ∃ j, m = j + 1 := ⟨m - 1, by omega⟩
      have heq : ∀ b ∈ index.references a, index.unfolded m b = index.unfolded n b :=
        fun b hb => ih (h.of_refersTo hb) (Nat.le_of_succ_le_succ hnm)
      rw [unfolded, unfolded, List.map_congr_left heq]

end SourceIndex

/-! ### Components that are put together -/

theorem mem_addResource {components : Table String Fragment} {r : ResourceSchema}
    {e : String × Fragment} (h : e ∈ addResource components r) :
    e ∈ components ∨ e = (r.name, r.schema) ∨ e ∈ r.components := by
  have hfold : ∀ (new acc : Table String Fragment),
      e ∈ new.foldl (fun acc d => Table.insertIfNew acc d.1 d.2) acc → e ∈ acc ∨ e ∈ new := by
    intro new
    induction new with
    | nil => exact fun acc he => .inl he
    | cons d new ih =>
        intro acc he
        rcases ih _ he with he | he
        · rcases Table.mem_insertIfNew he with rfl | he
          · exact .inr List.mem_cons_self
          · exact .inl he
        · exact .inr (List.mem_cons_of_mem _ he)
  rcases hfold _ _ h with h | h
  · rcases Table.mem_insert h with h | h
    · exact .inr (.inl h)
    · exact .inl h
  · exact .inr (.inr h)

/-- Every component is one of the resources that were added, or came with one. -/
theorem mem_foldl_addResource {found : List ResourceSchema} {e : String × Fragment}
    (h : e ∈ found.foldl addResource []) :
    ∃ r ∈ found, e = (r.name, r.schema) ∨ e ∈ r.components := by
  induction found using List.reverseRecOn with
  | nil => exact absurd h List.not_mem_nil
  | append_singleton found r ih =>
      rw [List.foldl_append] at h
      rcases mem_addResource h with h | h
      · obtain ⟨r', hr', he⟩ := ih h
        exact ⟨r', List.mem_append_left _ hr', he⟩
      · exact ⟨r, List.mem_append_right _ List.mem_cons_self, h⟩

theorem mem_keys_addResource {components : Table String Fragment} {r : ResourceSchema}
    {key : String} (h : key ∈ Table.keys components ∨ key = r.name) :
    key ∈ Table.keys (addResource components r) := by
  have hfold : ∀ (new acc : Table String Fragment), key ∈ Table.keys acc →
      key ∈ Table.keys (new.foldl (fun acc d => Table.insertIfNew acc d.1 d.2) acc) := by
    intro new
    induction new with
    | nil => exact fun acc hk => hk
    | cons d new ih => exact fun acc hk => ih _ (Table.mem_keys_insertIfNew.2 (.inr hk))
  exact hfold _ _ (Table.mem_keys_insert.2 h.symm)

/-- No resource that is added is lost. -/
theorem mem_keys_foldl_addResource {found : List ResourceSchema} {r : ResourceSchema}
    (h : r ∈ found) : r.name ∈ Table.keys (found.foldl addResource []) := by
  induction found using List.reverseRecOn with
  | nil => exact absurd h List.not_mem_nil
  | append_singleton found r' ih =>
      rw [List.foldl_append]
      rcases List.mem_append.1 h with h | h
      · exact mem_keys_addResource (.inl (ih h))
      · rw [List.mem_singleton.1 h]
        exact mem_keys_addResource (.inr rfl)

end RouteDoc.Source
