import RouteDoc.Proofs.Document.References
import RouteDoc.Proofs.Outcome
import RouteDoc.Proofs.Security.Middleware
/-!
# RouteDoc.Proofs.Document.Success

**When a document can be built.** Only two things about a route stop the building (`Documentable`):
a rate limit that cannot be read, and a detected query parameter that makes no parameter.
Configuration, stored records, a store that does not answer and an analysis that fails never do
(`build_succeeds_iff`).

**What is found out about one route stays with it.** Drafts that were built from other analyses put
the next operation together in the same way (`Alike`), so an operation depends on the analysis of
its own route only.
-/

namespace RouteDoc

open Text

namespace Document

/-! ### What an analyzer says -/

/-- The analyses of routes, one after the other. -/
def analysed {σ : Type} (analyze : Analyzer σ) :
    List Entry → σ → List (Entry × Except String Detection)
  | [], _ => []
  | e :: rest, s => (e, (analyze e.1 s).1) :: analysed analyze rest (analyze e.1 s).2

/-- The rate limits of a route can be read. -/
def ReadableLimits (r : Route) : Prop :=
  ∀ text ∈ r.middleware, ∀ count ∈ (Middleware.parse text).counts, Number.IsNumeral count

/-- A route can be put into a document. -/
structure Documentable (r : Route) (analysis : Except String Detection) : Prop where
  /-- Its rate limits can be read. -/
  limits : ReadableLimits r
  /-- Its detected query parameters are parameters. -/
  query : ∀ p ∈ (detected analysis).queryParameters, ∃ q, Assembly.queryParameter p = .valid q

/-- What could not be understood about a route, under its name. -/
def diagnosed (x : Entry × Except String Detection) : Option (String × List String) :=
  let texts := (detected x.2).diagnostics
  if texts.isEmpty then none else some (routeLabel x.1.1, texts)

/-- An analysis that fails leaves only the middleware to be read. -/
theorem documentable_error {r : Route} {text : String} :
    Documentable r (.error text) ↔ ReadableLimits r :=
  ⟨Documentable.limits, fun h => ⟨h, fun _ hp => nomatch hp⟩⟩

section

variable {σ τ : Type} {config : GeneratorConfig} {analyze : Analyzer σ} {analyze' : Analyzer τ}

/-! ### One route -/

theorem parameters_ok_iff {r : Route} {d : Detection} {record : Option OverrideRecord} :
    (∃ ps, Assembly.parameters config r d record = .ok ps) ↔
      ∀ p ∈ d.queryParameters, ∃ q, Assembly.queryParameter p = .valid q := by
  have hquery : (∃ query, (d.queryParameters.mapM fun p =>
      (Assembly.queryParameter p).toExcept) = .ok query) ↔
        ∀ p ∈ d.queryParameters, ∃ q, Assembly.queryParameter p = .valid q := by
    simp only [mapM_ok_iff, Checked.toExcept_ok_iff]
  rw [← hquery]
  unfold Assembly.parameters
  cases d.queryParameters.mapM fun p => (Assembly.queryParameter p).toExcept with
  | error issues => simp [bind, Except.bind]
  | ok query => simp [bind, Except.bind, pure, Except.pure]

/-- A route can be added exactly when it is documentable. -/
theorem addRoute_ok_iff {draft : Draft} {r : Route} {record : Option OverrideRecord}
    {analysis : Except String Detection} :
    (∃ result, addRoute config draft r record analysis = .ok result) ↔ Documentable r analysis := by
  have hlimits := MiddlewareAnalysis.of_ok_iff config.securitySchemes r.middleware
  unfold addRoute detect
  cases hof : MiddlewareAnalysis.of config.securitySchemes r.middleware with
  | error f =>
      rw [hof] at hlimits
      refine ⟨fun h => by simp at h, fun h => ?_⟩
      obtain ⟨m, hm⟩ := hlimits.2 h.limits
      exact nomatch hm
  | ok m =>
      dsimp only
      -- security and rate limit have no say in the parameters
      have hquery := @parameters_ok_iff config r
        { detected analysis with security := m.security, rateLimit := m.rateLimit } record
      have hreadable : ReadableLimits r := hlimits.1 ⟨m, hof⟩
      rw [Assembler.assemble_eq]
      cases hps : Assembly.parameters config r
          { detected analysis with security := m.security, rateLimit := m.rateLimit } record with
      | error issues =>
          rw [hps] at hquery
          refine ⟨fun h => by simp at h, fun h => ?_⟩
          obtain ⟨ps, hps'⟩ := hquery.2 h.query
          exact nomatch hps'
      | ok ps => exact ⟨fun _ => ⟨hreadable, hquery.1 ⟨ps, hps⟩⟩, fun _ => ⟨_, rfl⟩⟩

/-! ### All routes -/

/-- **The run**: routes can be added exactly when all of them are documentable. -/
theorem addRoutes_ok_iff (draft : Draft) (entries : List Entry) (s : σ) :
    (∃ draft', ((addRoutes config analyze draft entries).run s).1 = .ok draft') ↔
      ∀ x ∈ analysed analyze entries s, Documentable x.1.1 x.2 := by
  induction entries generalizing draft s with
  | nil => exact ⟨fun _ x hx => (nomatch hx), fun _ => ⟨draft, rfl⟩⟩
  | cons e rest ih =>
      have hadd := @addRoute_ok_iff config draft e.1 e.2 (analyze e.1 s).1
      rw [addRoutes_cons, analysed, List.forall_mem_cons, ← hadd]
      cases addRoute config draft e.1 e.2 (analyze e.1 s).1 with
      | error fault => simp
      | ok result =>
          dsimp only
          rw [ih]
          simp

/-- The end of a build cannot fail, since schemas are objects. -/
theorem exists_finish {snapshot : OverrideSnapshot} {draft : Draft}
    (h : Noted snapshot.schemas snapshot draft) :
    ∃ doc, finish config snapshot draft = .ok doc := by
  have hsound : draft.assembler.registry.Sound draft.assembler.registry.external :=
    h.external.symm ▸ h.sound
  obtain ⟨registry, hbuild⟩ := hsound.build_ok
  unfold finish
  rw [hbuild]
  exact ⟨_, rfl⟩

theorem diagnostics_addRoute {draft draft' : Draft} {e : Entry}
    {analysis : Except String Detection} {o : Operation}
    (h : addRoute config draft e.1 e.2 analysis = .ok (o, draft')) :
    draft'.diagnostics =
      Table.insertAll draft.diagnostics (diagnosed (e, analysis)).toList := by
  obtain ⟨d, assembler, hdetect, _, rfl⟩ := addRoute_ok h
  have hsame : d.diagnostics = (detected analysis).diagnostics := by
    unfold detect at hdetect
    split at hdetect
    · exact nomatch hdetect
    · obtain rfl := Except.ok.inj hdetect
      rfl
  unfold addOperation noteDiagnostics diagnosed
  dsimp only
  rw [hsame]
  split <;> rfl

theorem diagnostics_addRoutes {draft draft' : Draft} {entries : List Entry} {s : σ}
    (h : ((addRoutes config analyze draft entries).run s).1 = .ok draft') :
    draft'.diagnostics =
      Table.insertAll draft.diagnostics ((analysed analyze entries s).filterMap diagnosed) := by
  induction entries generalizing draft s with
  | nil =>
      obtain rfl := Except.ok.inj h
      rfl
  | cons e rest ih =>
      rw [addRoutes_cons] at h
      cases hadd : addRoute config draft e.1 e.2 (analyze e.1 s).1 with
      | error fault => simp [hadd] at h
      | ok result =>
          rw [hadd] at h
          rw [ih h, diagnostics_addRoute hadd, analysed, List.filterMap_cons]
          cases diagnosed (e, (analyze e.1 s).1) <;> rfl

/-! ### What one route leaves to the next -/

/-- Drafts that put operations together in the same way. -/
structure Alike (draft draft' : Draft) : Prop where
  ids : draft.assembler.ids = draft'.assembler.ids
  base : draft.assembler.registry.base = draft'.assembler.registry.base

theorem Alike.operation {draft draft' : Draft} (h : Alike draft draft') (r : Route)
    (d : Detection) (record : Option OverrideRecord) (ps : List Parameter) :
    Assembler.operation config draft.assembler r d record ps =
      Assembler.operation config draft'.assembler r d record ps := by
  unfold Assembler.operation Assembler.operationId
  rw [h.ids, h.base]

/-- **The step**: whatever is found out about a route, the drafts stay alike. -/
theorem Alike.addRoute {draft draft' next next' : Draft} {e : Entry}
    {analysis analysis' : Except String Detection} {o o' : Operation} (h : Alike draft draft')
    (hadd : addRoute config draft e.1 e.2 analysis = .ok (o, next))
    (hadd' : Document.addRoute config draft' e.1 e.2 analysis' = .ok (o', next')) :
    Alike next next' := by
  obtain ⟨_, _, _, _, _, hids, hbase⟩ := addRoute_operation hadd
  obtain ⟨_, _, _, _, _, hids', hbase'⟩ := addRoute_operation hadd'
  refine ⟨?_, by rw [hbase, hbase', h.base]⟩
  rw [hids, hids']
  unfold Assembler.operationId
  rw [h.ids]

/-- **The run**: an operation depends on the analysis of its own route only. -/
theorem Alike.assembled {draft draft' : Draft} (h : Alike draft draft') (entries : List Entry)
    (s : σ) (t : τ) {i : Nat} {x y : Entry × Operation}
    (hx : (assembled config analyze draft entries s)[i]? = some x)
    (hy : (Document.assembled config analyze' draft' entries t)[i]? = some y)
    (hsame : (analysed analyze entries s)[i]? = (analysed analyze' entries t)[i]?) : x = y := by
  induction entries generalizing draft draft' s t i with
  | nil => simp [Document.assembled] at hx
  | cons e rest ih =>
      rw [Document.assembled] at hx hy
      rw [analysed, analysed] at hsame
      cases hadd : Document.addRoute config draft e.1 e.2 (analyze e.1 s).1 with
      | error fault => simp [hadd] at hx
      | ok result =>
          cases hadd' : Document.addRoute config draft' e.1 e.2 (analyze' e.1 t).1 with
          | error fault => simp [hadd'] at hy
          | ok result' =>
              rw [hadd] at hx
              rw [hadd'] at hy
              cases i with
              | succ i => exact ih (h.addRoute hadd hadd') _ _ hx hy hsame
              | zero =>
                  -- the same analysis of the same route
                  simp only [List.getElem?_cons_zero, Option.some.injEq, Prod.mk.injEq,
                    true_and] at hx hy hsame
                  obtain ⟨d, ps, hdetect, hps, ho, _⟩ := addRoute_operation hadd
                  obtain ⟨d', ps', hdetect', hps', ho', _⟩ := addRoute_operation hadd'
                  rw [← hsame, hdetect, Except.ok.injEq] at hdetect'
                  obtain rfl := hdetect'
                  rw [hps, Except.ok.injEq] at hps'
                  obtain rfl := hps'
                  rw [← hx, ← hy, ho, ho', h.operation]

/-! ### The whole build -/

/-- A build gives a document exactly when its run gives a draft. -/
theorem build_ok_iff (snapshot : OverrideSnapshot) (routes : List Route) (s : σ) :
    (∃ doc, ((build config analyze snapshot routes).run s).1 = .ok doc) ↔
      ∃ draft, ((addRoutes config analyze (start snapshot (visibleRoutes snapshot routes))
        (visibleRoutes snapshot routes)).run s).1 = .ok draft := by
  rw [build_run]
  cases hrun : ((addRoutes config analyze (start snapshot (visibleRoutes snapshot routes))
      (visibleRoutes snapshot routes)).run s).1 with
  | error fault => simp
  | ok draft =>
      have hnoted : Noted snapshot.schemas snapshot draft :=
        (noted_start snapshot _).addRoutes hrun
      obtain ⟨doc, hdoc⟩ := @exists_finish config _ _ hnoted
      exact ⟨fun _ => ⟨draft, rfl⟩, fun _ => ⟨doc, hdoc⟩⟩

theorem diagnostics_finish {snapshot : OverrideSnapshot} {draft : Draft} {doc : Document}
    (h : finish config snapshot draft = .ok doc) : doc.diagnostics = draft.diagnostics := by
  unfold finish at h
  split at h
  · exact nomatch h
  · obtain rfl := Except.ok.inj h
    rfl

end

/-- **When a document can be built**, for any configuration, stored records or none, routes and
analyzer: exactly when every visible route is documentable, which says nothing about the analysis of
a route if that fails. The diagnostics of the document are those of its routes, and the operation of
a route stays the same, whatever other routes are found to be. -/
theorem build_succeeds_iff {σ : Type} (config : GeneratorConfig) (analyze : Analyzer σ)
    (overrides : Overrides) (routes : List Route) (s : σ) :
    let snapshot := overrides.records
    let visible := visibleRoutes snapshot routes
    let analyses := analysed analyze visible s
    let result := ((build config analyze snapshot routes).run s).1
    ((∃ doc, result = .ok doc) ↔ ∀ x ∈ analyses, Documentable x.1.1 x.2) ∧
    (∀ r text, Documentable r (.error text) ↔ ReadableLimits r) ∧
    (∀ doc, result = .ok doc →
      doc.diagnostics = Table.ofEntries (analyses.filterMap diagnosed)) ∧
    (∀ {τ : Type} (analyze' : Analyzer τ) (t : τ) (i : Nat) (x y : Entry × Operation),
      (assembled config analyze (start snapshot visible) visible s)[i]? = some x →
      (assembled config analyze' (start snapshot visible) visible t)[i]? = some y →
      analyses[i]? = (analysed analyze' visible t)[i]? → x = y) := by
  intro snapshot visible analyses result
  refine ⟨?_, fun _ _ => documentable_error, fun doc hdoc => ?_, fun analyze' t i x y hx hy => ?_⟩
  · rw [build_ok_iff]
    exact addRoutes_ok_iff (start snapshot visible) visible s
  · obtain ⟨draft, hrun, hfinish⟩ := build_ok hdoc
    rw [diagnostics_finish hfinish, diagnostics_addRoutes hrun]
    rfl
  · exact Alike.assembled ⟨rfl, rfl⟩ visible s t hx hy

-- A superscript is a digit that belongs to no numeral.
example :
    ((build {} noAnalysis {}
      [{ method := "GET", path := "/users", middleware := ["throttle:²"] }]).run ()).1.toOption.isNone :=
  by decide +kernel

end Document

end RouteDoc
