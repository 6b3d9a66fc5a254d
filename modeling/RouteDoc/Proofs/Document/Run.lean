import RouteDoc.Document.Build
import RouteDoc.Proofs.Operation.Assembly
import RouteDoc.Proofs.Outcome
/-!
# RouteDoc.Proofs.Document.Run

**How a document is built, route by route.** `assembled` lists the operations that are put together
on the way, each with its route and record; it stops where the building stops.

* `addRoute_ok` says everything that one route does to a draft, and `addRoute_operation` what its
  operation is.
* `assembled_induction` and `addRoutes_induction` lift what one route preserves to all routes, and
  `addRoutes_append` splits them into those that come first and those that come after.
* `build_ok` splits a build that succeeds into its run and its end.
-/

namespace RouteDoc

namespace Document

/-- A route with its stored record. -/
abbrev Entry := Route × Option OverrideRecord

section

variable {σ : Type} {config : GeneratorConfig} {analyze : Analyzer σ}

/-! ### One route -/

/-- Invert one route: it is detected, put together and added. -/
theorem addRoute_ok {draft draft' : Draft} {r : Route} {record : Option OverrideRecord}
    {analysis : Except String Detection} {o : Operation}
    (h : addRoute config draft r record analysis = .ok (o, draft')) :
    ∃ d assembler, detect config r analysis = .ok d ∧
      Assembler.assemble config draft.assembler r d record = (.ok o, assembler) ∧
      draft' = addOperation (noteDiagnostics draft r d) o assembler := by
  unfold addRoute at h
  cases hd : detect config r analysis with
  | error e => simp [hd] at h
  | ok d =>
      rw [hd] at h
      dsimp only at h
      split at h
      · simp at h
      · rename_i o' assembler hassemble
        rw [Except.ok.injEq, Prod.mk.injEq] at h
        obtain ⟨rfl, rfl⟩ := h
        exact ⟨d, assembler, rfl, hassemble, rfl⟩

/-- What an operation is and what it leaves to others, in terms of the draft. -/
theorem addRoute_operation {draft draft' : Draft} {e : Entry}
    {analysis : Except String Detection} {o : Operation}
    (h : addRoute config draft e.1 e.2 analysis = .ok (o, draft')) :
    ∃ d ps, detect config e.1 analysis = .ok d ∧
      Assembly.parameters config e.1 d e.2 = .ok ps ∧
      o = Assembler.operation config draft.assembler e.1 d e.2 ps ∧
      draft'.assembler.ids = (draft.assembler.operationId e.1 e.2).2 ∧
      draft'.assembler.registry.base = draft.assembler.registry.base := by
  obtain ⟨d, assembler, hdetect, hassemble, rfl⟩ := addRoute_ok h
  rw [Assembler.assemble_eq] at hassemble
  cases hps : Assembly.parameters config e.1 d e.2 with
  | error issues => simp [hps] at hassemble
  | ok ps =>
      rw [hps] at hassemble
      obtain ⟨ho, rfl⟩ := Prod.mk.inj hassemble
      obtain rfl := Except.ok.inj ho
      exact ⟨d, ps, hdetect, hps, rfl, rfl, Assembler.base_registryAfter ..⟩

theorem paths_noteDiagnostics (draft : Draft) (r : Route) (d : Detection) :
    (noteDiagnostics draft r d).paths = draft.paths := by
  unfold noteDiagnostics
  split
  · rfl
  · rfl

/-! ### All routes -/

/-- The operations that are put together when routes are put into a draft, up to the first failure,
each with its route and record. -/
def assembled (config : GeneratorConfig) (analyze : Analyzer σ) (draft : Draft) :
    List Entry → σ → List (Entry × Operation)
  | [], _ => []
  | e :: rest, s =>
      match addRoute config draft e.1 e.2 (analyze e.1 s).1 with
      | .error _ => []
      | .ok (o, draft) => (e, o) :: assembled config analyze draft rest (analyze e.1 s).2

theorem addRoutes_cons (draft : Draft) (e : Entry) (rest : List Entry) (s : σ) :
    (addRoutes config analyze draft (e :: rest)).run s =
      match addRoute config draft e.1 e.2 (analyze e.1 s).1 with
      | .error fault => (.error fault, (analyze e.1 s).2)
      | .ok (_, draft) => (addRoutes config analyze draft rest).run (analyze e.1 s).2 := by
  rw [addRoutes]
  simp only [StateT.run, bind, StateT.bind]
  rcases analyze e.1 s with ⟨analysis, s'⟩
  dsimp only
  cases addRoute config draft e.1 e.2 analysis with
  | error fault => rfl
  | ok result => rfl

/-- The operations belong to the first of the routes, in order. -/
theorem isPrefix_map_fst_assembled (draft : Draft) (entries : List Entry) (s : σ) :
    (assembled config analyze draft entries s).map Prod.fst <+: entries := by
  induction entries generalizing draft s with
  | nil => exact List.prefix_refl _
  | cons e rest ih =>
      rw [assembled]
      split
      · exact List.nil_prefix
      · rw [List.map_cons]
        exact List.cons_prefix_cons.2 ⟨rfl, ih _ _⟩

/-- Where nothing fails, there is one for each route. -/
theorem map_fst_assembled {draft draft' : Draft} {entries : List Entry} {s : σ}
    (h : ((addRoutes config analyze draft entries).run s).1 = .ok draft') :
    (assembled config analyze draft entries s).map Prod.fst = entries := by
  induction entries generalizing draft s with
  | nil => rfl
  | cons e rest ih =>
      rw [addRoutes_cons] at h
      rw [assembled]
      cases hadd : addRoute config draft e.1 e.2 (analyze e.1 s).1 with
      | error fault => simp [hadd] at h
      | ok result =>
          rw [hadd] at h
          rw [List.map_cons, ih h]

/-- Routes that come after others are added to what those leave. -/
theorem addRoutes_append (draft : Draft) (first second : List Entry) (s : σ) :
    (addRoutes config analyze draft (first ++ second)).run s =
      match (addRoutes config analyze draft first).run s with
      | (.error fault, s') => (.error fault, s')
      | (.ok next, s') => (addRoutes config analyze next second).run s' := by
  induction first generalizing draft s with
  | nil => rfl
  | cons e rest ih =>
      rw [List.cons_append, addRoutes_cons, addRoutes_cons]
      cases addRoute config draft e.1 e.2 (analyze e.1 s).1 with
      | error fault => rfl
      | ok result => exact ih result.2 (analyze e.1 s).2

/-- **The run**: what one route preserves of the draft and of the operations that were put together,
all routes preserve. -/
theorem assembled_induction {motive : List (Entry × Operation) → Draft → Prop}
    (step : ∀ done draft e analysis o draft', motive done draft →
      addRoute config draft (Prod.fst e) (Prod.snd e) analysis = .ok (o, draft') →
        motive (done ++ [(e, o)]) draft')
    (done : List (Entry × Operation)) {draft draft' : Draft} {entries : List Entry} {s : σ}
    (hstart : motive done draft)
    (h : ((addRoutes config analyze draft entries).run s).1 = .ok draft') :
    motive (done ++ assembled config analyze draft entries s) draft' := by
  induction entries generalizing done draft s with
  | nil =>
      obtain rfl := Except.ok.inj h
      rw [assembled, List.append_nil]
      exact hstart
  | cons e rest ih =>
      rw [addRoutes_cons] at h
      rw [assembled]
      cases hadd : addRoute config draft e.1 e.2 (analyze e.1 s).1 with
      | error fault => simp [hadd] at h
      | ok result =>
          obtain ⟨o, next⟩ := result
          rw [hadd] at h
          have hnext := ih (done ++ [(e, o)]) (step done draft e _ o next hstart hadd) h
          rw [List.append_assoc] at hnext
          exact hnext

/-- What one route preserves of the draft, all routes preserve. -/
theorem addRoutes_induction {motive : Draft → Prop}
    (step : ∀ draft e analysis o draft', motive draft →
      addRoute config draft (Prod.fst e) (Prod.snd e) analysis = .ok (o, draft') → motive draft')
    {draft draft' : Draft} {entries : List Entry} {s : σ} (hstart : motive draft)
    (h : ((addRoutes config analyze draft entries).run s).1 = .ok draft') : motive draft' :=
  assembled_induction (motive := fun _ draft => motive draft)
    (fun _ draft e analysis o draft' => step draft e analysis o draft') [] hstart h

/-! ### The whole build -/

/-- A build is its run and its end. -/
theorem build_run (snapshot : OverrideSnapshot) (routes : List Route) (s : σ) :
    ((build config analyze snapshot routes).run s).1 =
      match ((addRoutes config analyze (start snapshot (visibleRoutes snapshot routes))
        (visibleRoutes snapshot routes)).run s).1 with
      | .error e => .error e
      | .ok draft => finish config snapshot draft := by
  unfold build
  simp only [StateT.run, bind, StateT.bind]
  rcases addRoutes config analyze (start snapshot (visibleRoutes snapshot routes))
    (visibleRoutes snapshot routes) s with ⟨_ | _, _⟩ <;> rfl

/-- Split a build that succeeds: all routes are added to the start, and the draft is finished. -/
theorem build_ok {snapshot : OverrideSnapshot} {routes : List Route} {s : σ} {doc : Document}
    (h : ((build config analyze snapshot routes).run s).1 = .ok doc) :
    ∃ draft, ((addRoutes config analyze (start snapshot (visibleRoutes snapshot routes))
        (visibleRoutes snapshot routes)).run s).1 = .ok draft ∧
      finish config snapshot draft = .ok doc := by
  rw [build_run] at h
  cases hrun : ((addRoutes config analyze (start snapshot (visibleRoutes snapshot routes))
      (visibleRoutes snapshot routes)).run s).1 with
  | error fault => simp [hrun] at h
  | ok draft =>
      rw [hrun] at h
      exact ⟨draft, rfl, h⟩

end

end Document

end RouteDoc
