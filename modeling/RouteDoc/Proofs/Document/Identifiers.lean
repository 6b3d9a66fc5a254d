import RouteDoc.Proofs.Document.Run
import RouteDoc.Proofs.Operation.Identifiers
/-!
# RouteDoc.Proofs.Document.Identifiers

**The identifiers of one document.** No two operations share one; the first route that asks for an
identifier gets it; and what is generated, or numbered because it was used, is nothing that a route
asks for (`build_operationIds`).

`Identified` packages this for a run that starts with any identifiers. A run is put together from
its first operation, which is handed a free identifier (`HandsOut`), and the run that follows.
-/

namespace RouteDoc

namespace Document

/-- The operations of a run that starts with some identifiers have identifiers of their own. -/
structure Identified (ids : OperationIds) (ops : List (Entry × Operation)) : Prop where
  /-- They differ from each other and from those that were used. -/
  nodup : (ids.used ++ ops.map fun x => x.2.operationId).Nodup
  /-- Each was asked for, or is reserved for nobody. -/
  own : ∀ x ∈ ops, askedId x.1.2 = some x.2.operationId ∨ x.2.operationId ∉ ids.reserved
  /-- One that was asked for is the one, unless it is used by then. -/
  granted : ∀ earlier x later, ops = earlier ++ x :: later → ∀ wish, askedId x.1.2 = some wish →
    wish ∉ ids.used → (∀ y ∈ earlier, y.2.operationId ≠ wish) → x.2.operationId = wish

theorem Identified.nil {ids : OperationIds} (h : ids.used.Nodup) : Identified ids [] where
  nodup := by simpa using h
  own := by simp
  granted := by simp

/-- **Sequencing**: one operation, then the run that starts with what it leaves. -/
theorem Identified.cons {ids after : OperationIds} {x : Entry × Operation}
    {ops : List (Entry × Operation)} (hx : HandsOut ids (askedId x.1.2) x.2.operationId after)
    (hops : Identified after ops) : Identified ids (x :: ops) where
  nodup := by
    have hnodup := hops.nodup
    rw [hx.after_eq, OperationIds.take, List.append_assoc] at hnodup
    exact hnodup
  own := by
    intro y hy
    rcases List.mem_cons.1 hy with rfl | hy
    · exact hx.own
    · have hown := hops.own y hy
      rw [hx.after_eq] at hown
      exact hown
  granted := by
    intro earlier y later hsplit wish hasked hunused hbefore
    -- the operation is the first one, or one of the run behind it
    cases earlier with
    | nil =>
        obtain ⟨rfl, _⟩ := List.cons.inj hsplit
        exact hx.granted wish hasked hunused
    | cons z earlier =>
        obtain ⟨rfl, hrest⟩ := List.cons.inj hsplit
        refine hops.granted earlier y later hrest wish hasked ?_
          fun y hy => hbefore y (List.mem_cons_of_mem _ hy)
        rw [hx.after_eq, OperationIds.take, List.mem_append, List.mem_singleton, not_or]
        exact ⟨hunused, (hbefore x List.mem_cons_self).symm⟩

/-- One route hands out the identifier of its operation. -/
theorem handsOut_addRoute {config : GeneratorConfig} {draft draft' : Draft} {r : Route}
    {record : Option OverrideRecord} {analysis : Except String Detection} {o : Operation}
    (h : addRoute config draft r record analysis = .ok (o, draft')) :
    HandsOut draft.assembler.ids (askedId record) o.operationId draft'.assembler.ids := by
  obtain ⟨d, assembler, _, hassemble, rfl⟩ := addRoute_ok h
  have hout := Assembler.handsOut_assemble hassemble
  exact hout

/-- The run: by induction on the routes. -/
theorem identified_assembled {σ : Type} (config : GeneratorConfig) (analyze : Analyzer σ)
    (draft : Draft) (entries : List Entry) (s : σ) (h : draft.assembler.ids.used.Nodup) :
    Identified draft.assembler.ids (assembled config analyze draft entries s) := by
  induction entries generalizing draft s with
  | nil => exact Identified.nil h
  | cons e rest ih =>
      rw [assembled]
      split
      · exact Identified.nil h
      · rename_i o draft' hadd
        -- the rest of the run starts with one more used identifier, a fresh one
        have hout := handsOut_addRoute hadd
        refine Identified.cons hout (ih draft' _ ?_)
        rw [hout.after_eq, OperationIds.take, List.nodup_append]
        refine ⟨h, by simp, fun id hid id' hid' heq => ?_⟩
        rw [List.mem_singleton] at hid'
        exact hout.fresh (hid' ▸ heq ▸ hid)

theorem mem_requestedIds {visible : List Entry} {id : String} :
    id ∈ requestedIds visible ↔ ∃ e ∈ visible, askedId e.2 = some id ∧ id ≠ "" := by
  unfold requestedIds askedId
  rw [List.mem_filterMap]
  exact exists_congr fun e => and_congr_right fun _ => Text.filled?_eq_some_iff

/-- The operation at the place of an entry is the one of the entry, behind those of the entries
before it. -/
theorem split_of_isPrefix {ops : List (Entry × Operation)} {before after : List Entry} {e : Entry}
    {x : Entry × Operation} (h : ops.map Prod.fst <+: before ++ e :: after)
    (hx : ops[before.length]? = some x) :
    x.1 = e ∧ ∃ earlier later, ops = earlier ++ x :: later ∧ earlier.map Prod.fst = before := by
  induction before generalizing ops with
  | nil =>
      cases ops with
      | nil => simp at hx
      | cons y ops =>
          obtain rfl := Option.some.inj hx
          rw [List.nil_append, List.map_cons, List.cons_prefix_cons] at h
          exact ⟨h.1, [], ops, rfl, rfl⟩
  | cons first before ih =>
      cases ops with
      | nil => simp at hx
      | cons y ops =>
          rw [List.cons_append, List.map_cons, List.cons_prefix_cons] at h
          rw [List.length_cons, List.getElem?_cons_succ] at hx
          obtain ⟨hentry, earlier, later, rfl, rfl⟩ := ih h.2 hx
          exact ⟨hentry, y :: earlier, later, rfl, by rw [List.map_cons, h.1]⟩

/-- **The identifiers of a document.** The operations that are put together while it is built, one
for each of the first visible routes and one for every visible route if the building succeeds, have
identifiers that differ from each other. The first visible route whose record asks for an identifier
gets it. Any identifier that its record does not ask for is one that no record asks for. -/
theorem build_operationIds {σ : Type} (config : GeneratorConfig) (analyze : Analyzer σ)
    (snapshot : OverrideSnapshot) (routes : List Route) (s : σ) :
    let visible := visibleRoutes snapshot routes
    let ops := assembled config analyze (start snapshot visible) visible s
    (ops.map Prod.fst <+: visible ∧
      ∀ doc, ((build config analyze snapshot routes).run s).1 = .ok doc →
        ops.map Prod.fst = visible) ∧
    (ops.map fun x => x.2.operationId).Nodup ∧
    (∀ before e after wish, visible = before ++ e :: after → askedId e.2 = some wish → wish ≠ "" →
      (∀ other ∈ before, askedId other.2 ≠ some wish) →
      ∀ x, ops[before.length]? = some x → x.2.operationId = wish) ∧
    (∀ x ∈ ops, askedId x.1.2 ≠ some x.2.operationId →
      x.2.operationId ∉ requestedIds visible) := by
  intro visible ops
  have hpre : ops.map Prod.fst <+: visible := isPrefix_map_fst_assembled _ _ _
  have hids := identified_assembled config analyze (start snapshot visible) visible s List.nodup_nil
  refine ⟨⟨hpre, fun doc hdoc => ?_⟩, ?_, ?_, ?_⟩
  · obtain ⟨draft, hrun, _⟩ := build_ok hdoc
    exact map_fst_assembled hrun
  · exact hids.nodup
  · intro before e after wish hvisible hasked hwish hbefore x hx
    obtain ⟨hentry, earlier, later, hsplit, hearlier⟩ := split_of_isPrefix (hvisible ▸ hpre) hx
    refine hids.granted earlier x later hsplit wish (hentry ▸ hasked) List.not_mem_nil
      fun y hy heq => ?_
    -- it would have asked for the identifier, since that one is reserved
    have hmem : y ∈ ops := hsplit ▸ List.mem_append_left _ hy
    have hreserved : wish ∈ requestedIds visible :=
      mem_requestedIds.2 ⟨e, hvisible ▸ by simp, hasked, hwish⟩
    have hasker : askedId y.1.2 = some wish := by
      rcases hids.own y hmem with hown | hown
      · rw [hown, heq]
      · exact absurd (heq ▸ hreserved) hown
    exact hbefore y.1 (hearlier ▸ List.mem_map_of_mem hy) hasker
  · intro x hx hasked
    exact (hids.own x hx).resolve_left hasked

end Document

end RouteDoc
