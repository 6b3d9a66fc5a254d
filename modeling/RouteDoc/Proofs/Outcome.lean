import RouteDoc.Check.Basic
/-!
# RouteDoc.Proofs.Outcome

**Steps that may fail.** Steps one after the other succeed when each of them does, and so do the
steps for the members of a list; a check of several parts is passed when every part passes.
-/

namespace RouteDoc

variable {ε α β : Type}

/-! ### Exceptions -/

/-- Whether something succeeds with a result of a kind. -/
instance decidableExistsOk (p : α → Prop) [DecidablePred p] :
    (e : Except ε α) → Decidable (∃ a, e = .ok a ∧ p a)
  | .ok a => decidable_of_iff (p a) ⟨fun h => ⟨a, rfl, h⟩, fun ⟨_, ha, h⟩ => Except.ok.inj ha ▸ h⟩
  | .error _ => isFalse fun ⟨_, ha, _⟩ => nomatch ha

theorem bind_eq_ok {x : Except ε α} {f : α → Except ε β} {b : β} :
    x >>= f = .ok b ↔ ∃ a, x = .ok a ∧ f a = .ok b := by
  cases x <;> simp [bind, Except.bind]

theorem bind_ok_iff {x : Except ε α} {f : α → Except ε β} :
    (∃ b, x >>= f = .ok b) ↔ ∃ a, x = .ok a ∧ ∃ b, f a = .ok b := by
  cases x <;> simp [bind, Except.bind]

theorem mapM_cons_eq_ok {f : α → Except ε β} {x : α} {xs : List α} {ys : List β} :
    (x :: xs).mapM f = .ok ys ↔
      ∃ y, f x = .ok y ∧ ∃ more, xs.mapM f = .ok more ∧ y :: more = ys := by
  rw [List.mapM_cons]
  simp only [bind_eq_ok, pure, Except.pure, Except.ok.injEq]

/-- The steps for the members of a list succeed when each of them does. -/
theorem mapM_ok_iff {f : α → Except ε β} {xs : List α} :
    (∃ ys, xs.mapM f = .ok ys) ↔ ∀ x ∈ xs, ∃ y, f x = .ok y := by
  induction xs with
  | nil => simp [pure, Except.pure]
  | cons x rest ih =>
      rw [List.forall_mem_cons, ← ih]
      constructor
      · rintro ⟨ys, hys⟩
        obtain ⟨y, hy, more, hmore, -⟩ := mapM_cons_eq_ok.1 hys
        exact ⟨⟨y, hy⟩, more, hmore⟩
      · rintro ⟨⟨y, hy⟩, more, hmore⟩
        exact ⟨y :: more, mapM_cons_eq_ok.2 ⟨y, hy, more, hmore, rfl⟩⟩

/-- What comes of a list comes of its members. -/
theorem exists_of_mem_mapM {f : α → Except ε β} {xs : List α} {ys : List β}
    (h : xs.mapM f = .ok ys) {y : β} (hy : y ∈ ys) : ∃ x ∈ xs, f x = .ok y := by
  induction xs generalizing ys with
  | nil =>
      obtain rfl := Except.ok.inj h
      exact nomatch hy
  | cons x rest ih =>
      obtain ⟨first, hfirst, more, hmore, rfl⟩ := mapM_cons_eq_ok.1 h
      rcases List.mem_cons.1 hy with rfl | hy
      · exact ⟨x, List.mem_cons_self, hfirst⟩
      · obtain ⟨x', hx', hok⟩ := ih hmore hy
        exact ⟨x', List.mem_cons_of_mem _ hx', hok⟩

/-- What can be told from each result can be told from all of them, in order. -/
theorem map_eq_of_mapM_ok {f : α → Except ε β} {g : β → α} (hg : ∀ x y, f x = .ok y → g y = x)
    {xs : List α} {ys : List β} (h : xs.mapM f = .ok ys) : ys.map g = xs := by
  induction xs generalizing ys with
  | nil =>
      obtain rfl := Except.ok.inj h
      rfl
  | cons x rest ih =>
      obtain ⟨first, hfirst, more, hmore, rfl⟩ := mapM_cons_eq_ok.1 h
      rw [List.map_cons, hg x first hfirst, ih hmore]

/-! ### Checks -/

namespace Checked

theorem toExcept_eq_ok {x : Checked α} {a : α} : x.toExcept = .ok a ↔ x = .valid a := by
  cases x <;> simp [toExcept]

theorem toExcept_ok_iff {x : Checked α} : (∃ a, x.toExcept = .ok a) ↔ ∃ a, x = .valid a :=
  exists_congr fun _ => toExcept_eq_ok

theorem map_eq_valid {f : α → β} {x : Checked α} {b : β} :
    f <$> x = .valid b ↔ ∃ a, x = .valid a ∧ f a = b := by
  cases x <;> simp [Functor.map, map]

theorem map_valid_iff {f : α → β} {x : Checked α} :
    (∃ b, f <$> x = .valid b) ↔ ∃ a, x = .valid a := by
  simp only [map_eq_valid, exists_comm, exists_and_left, exists_eq', and_true]

theorem seq_eq_valid {f : Checked (α → β)} {x : Checked α} {b : β} :
    f <*> x = .valid b ↔ ∃ g, f = .valid g ∧ ∃ a, x = .valid a ∧ g a = b := by
  cases f <;> cases x <;> simp [Seq.seq, ap]

theorem seq_valid_iff {f : Checked (α → β)} {x : Checked α} :
    (∃ b, f <*> x = .valid b) ↔ (∃ g, f = .valid g) ∧ ∃ a, x = .valid a := by
  cases f <;> cases x <;> simp [Seq.seq, ap]

theorem under_valid_iff {name : String} {x : Checked α} :
    (∃ a, x.under name = .valid a) ↔ ∃ a, x = .valid a := by
  cases x <;> simp [under]

end Checked

end RouteDoc
