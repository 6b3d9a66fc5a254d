import RouteDoc.Proofs.Document.Paths
import RouteDoc.Proofs.Security.Schemes
/-!
# RouteDoc.Proofs.Document.Security

**Security requirements lead somewhere.** An operation asks for the schemes that its record lists, or
else for those that its middleware leads to. The latter are all resolvable, and the draft remembers
that they are used (`Uses`), so the document has them (`build_security`). What a record lists is
taken as it is, and may name a scheme that is nowhere.
-/

namespace RouteDoc

namespace Document

/-! ### What a document says -/

/-- The security schemes of a document. -/
def securitySchemes (doc : Document) : Value := part doc.components "securitySchemes"

/-- The names of the security schemes of a document. -/
def schemeNames (doc : Document) : List String :=
  (doc.securitySchemes.entries?.map Table.keys).getD []

/-- The names of the schemes that a document, or an operation of it, asks for. -/
def schemesAskedBy (v : Value) : List String :=
  (members (part v "security")).flatMap fun requirement =>
    (requirement.entries?.map Table.keys).getD []

theorem names_requirements (requirements : List RequirementObject) :
    ((requirements.map RequirementObject.toValue).flatMap fun requirement =>
      (requirement.entries?.map Table.keys).getD []) = requirements.flatMap Table.keys := by
  rw [List.flatMap_map]
  refine congrArg requirements.flatMap (funext fun requirement => ?_)
  exact Table.keys_mapValues _ requirement

/-- The requirements of an operation in a document. -/
theorem part_security_toFragment (o : Operation) :
    part (.obj o.toFragment) "security" =
      (o.security.map fun rs => Value.arr (rs.map RequirementObject.toValue)).getD .null := by
  simp [part, Value.entries?, Operation.toFragment, Table.get?_append, get?_optionalField,
    Table.get?]

/-- An operation asks for the same schemes in a document. -/
theorem schemesAskedBy_toFragment (o : Operation) :
    schemesAskedBy (.obj o.toFragment) = (o.security.getD []).flatMap Table.keys := by
  unfold schemesAskedBy
  rw [part_security_toFragment]
  cases o.security with
  | none => rfl
  | some requirements => exact names_requirements requirements

/-! ### One operation -/

theorem security_detect {config : GeneratorConfig} {r : Route}
    {analysis : Except String Detection} {d : Detection} (h : detect config r analysis = .ok d) :
    ∃ m, MiddlewareAnalysis.of config.securitySchemes r.middleware = .ok m ∧
      d.security = m.security := by
  unfold detect at h
  cases hof : MiddlewareAnalysis.of config.securitySchemes r.middleware with
  | error fault => simp [hof] at h
  | ok m =>
      rw [hof] at h
      obtain rfl := Except.ok.inj h
      exact ⟨m, rfl, rfl⟩

/-- Without a record that says otherwise, the schemes of an operation are those of its middleware. -/
theorem resolvable_security {config : GeneratorConfig} {r : Route}
    {analysis : Except String Detection} {d : Detection} {record : Option OverrideRecord}
    (h : detect config r analysis = .ok d)
    (hrecord : record.bind OverrideRecord.securityRequirements = none) :
    ∀ name ∈ ((Assembly.security d record).getD []).flatMap Table.keys,
      Resolvable config.securitySchemes name := by
  obtain ⟨m, hof, hsecurity⟩ := security_detect h
  intro name hname
  rw [Assembly.security, hrecord, hsecurity] at hname
  dsimp only at hname
  split at hname
  · simp at hname
  · rw [Option.getD_some, List.flatMap_map] at hname
    obtain ⟨requirement, hmem, hkey⟩ := List.mem_flatMap.1 hname
    obtain rfl := List.mem_singleton.1 hkey
    exact MiddlewareAnalysis.resolvable_of hof requirement hmem

/-- What a draft knows of the schemes that its operations ask for. -/
structure Uses (config : GeneratorConfig) (done : List (Entry × Operation)) (draft : Draft) :
    Prop where
  /-- All of them are remembered. -/
  used : ∀ x ∈ done, ∀ name ∈ (x.2.security.getD []).flatMap Table.keys, name ∈ draft.usedSchemes
  /-- Those that no record lists are resolvable. -/
  resolvable : ∀ x ∈ done, x.1.2.bind OverrideRecord.securityRequirements = none →
    ∀ name ∈ (x.2.security.getD []).flatMap Table.keys, Resolvable config.securitySchemes name

theorem uses_start (config : GeneratorConfig) (snapshot : OverrideSnapshot) (visible : List Entry) :
    Uses config [] (start snapshot visible) := by
  constructor
  · simp
  · simp

/-- **The step.** -/
theorem Uses.addRoute {config : GeneratorConfig} {done : List (Entry × Operation)}
    {draft draft' : Draft} {e : Entry} {analysis : Except String Detection} {o : Operation}
    (h : Uses config done draft)
    (hadd : Document.addRoute config draft e.1 e.2 analysis = .ok (o, draft')) :
    Uses config (done ++ [(e, o)]) draft' := by
  obtain ⟨d, ps, hdetect, _, ho, _⟩ := addRoute_operation hadd
  have hsecurity : o.security = Assembly.security d e.2 := by
    rw [ho]
    rfl
  obtain ⟨d', assembler, _, _, rfl⟩ := addRoute_ok hadd
  have hused : (addOperation (noteDiagnostics draft e.1 d') o assembler).usedSchemes =
      addNew draft.usedSchemes ((o.security.getD []).flatMap Table.keys) := by
    unfold addOperation noteDiagnostics
    split <;> rfl
  constructor
  · intro x hx name hname
    rw [hused, mem_addNew]
    rcases List.mem_append.1 hx with hold | hnew
    · exact .inl (h.used x hold name hname)
    · obtain rfl := List.mem_singleton.1 hnew
      exact .inr hname
  · intro x hx hrecord name hname
    rcases List.mem_append.1 hx with hold | hnew
    · exact h.resolvable x hold hrecord name hname
    · obtain rfl := List.mem_singleton.1 hnew
      rw [hsecurity] at hname
      exact resolvable_security hdetect hrecord name hname

/-! ### The document -/

/-- The schemes of a document come from the three layers, and one of them is asked for by default. -/
theorem schemes_finish {config : GeneratorConfig} {snapshot : OverrideSnapshot} {draft : Draft}
    {doc : Document} (h : finish config snapshot draft = .ok doc) :
    ∃ schemes, schemes = SecuritySchemes.build snapshot.securitySchemes config.securitySchemes
        (Schema.sortedNames draft.usedSchemes) ∧
      doc.securitySchemes = .obj (Table.mapValues .obj schemes) ∧
      schemesAskedBy (.obj doc.content) =
        (SecuritySchemes.defaultName? config.securitySchemes (Table.keys schemes)).toList := by
  unfold finish at h
  split at h
  · exact nomatch h
  · rename_i registry _
    obtain rfl := Except.ok.inj h
    refine ⟨_, rfl, part_securitySchemes registry.schemas _, ?_⟩
    unfold schemesAskedBy part
    dsimp only
    cases SecuritySchemes.defaultName? config.securitySchemes _ with
    | none => cases draft.tags <;> rfl
    | some name => rfl

/-- What a document knows of the schemes that are asked for. -/
structure Secured (snapshot : OverrideSnapshot) (ops : List (Entry × Operation))
    (doc : Document) : Prop where
  /-- Each operation was put together for a route and its record. -/
  operations : ∀ e ∈ doc.operations, ∃ x ∈ ops, x.1.2 = snapshot.forRoute x.1.1 ∧
    e = (x.1.1.place, .obj x.2.toFragment)
  /-- The scheme that the document asks for by default is there. -/
  byDefault : ∀ name ∈ schemesAskedBy (.obj doc.content), name ∈ doc.schemeNames
  /-- So are those of an operation whose record does not list any. -/
  own : ∀ x ∈ ops, x.1.2.bind OverrideRecord.securityRequirements = none →
    ∀ name ∈ schemesAskedBy (.obj x.2.toFragment), name ∈ doc.schemeNames
  /-- A stored scheme is what was stored last under its name. -/
  stored : ∀ record, IsLast SecuritySchemeRecord.name snapshot.securitySchemes record →
    part doc.securitySchemes record.name = .obj record.toFragment

/-- **Security requirements lead somewhere.** -/
theorem build_security {σ : Type} (config : GeneratorConfig) (analyze : Analyzer σ)
    (snapshot : OverrideSnapshot) (routes : List Route) (s : σ) (doc : Document)
    (h : ((build config analyze snapshot routes).run s).1 = .ok doc) :
    Secured snapshot
      (assembled config analyze (start snapshot (visibleRoutes snapshot routes))
        (visibleRoutes snapshot routes) s) doc := by
  obtain ⟨draft, hrun, hfinish⟩ := build_ok h
  have hplaced := (placed_start snapshot (visibleRoutes snapshot routes)).addRoutes hrun
  have huses : Uses config _ draft :=
    assembled_induction (fun _ _ _ _ _ _ huses hadd => huses.addRoute hadd) []
      (uses_start config snapshot (visibleRoutes snapshot routes)) hrun
  rw [List.nil_append] at hplaced huses
  have hvisible := map_fst_assembled hrun
  generalize assembled config analyze (start snapshot (visibleRoutes snapshot routes))
    (visibleRoutes snapshot routes) s = ops at hplaced huses hvisible
  obtain ⟨schemes, hschemes, hcomponents, hdefault⟩ := schemes_finish hfinish
  have hnames : doc.schemeNames = Table.keys schemes := by
    rw [schemeNames, hcomponents]
    exact Table.keys_mapValues _ schemes
  refine ⟨?_, ?_, ?_, ?_⟩
  · rintro ⟨place, v⟩ he
    obtain ⟨_, _, _, hpaths, _⟩ := finish_ok hfinish
    obtain ⟨x, hx, rfl⟩ := Option.map_eq_some_iff.1 ((hplaced.mem_operations hpaths).1 he)
    obtain ⟨hlast, rfl⟩ := get?_index.1 hx
    exact ⟨x, hlast.mem, (mem_of_visible hvisible hlast.mem).2, rfl⟩
  · intro name hname
    rw [hdefault, Option.mem_toList] at hname
    rw [hnames, hschemes]
    rw [hschemes] at hname
    exact SecuritySchemes.mem_keys_of_defaultName? hname
  · intro x hx hrecord name hname
    rw [schemesAskedBy_toFragment] at hname
    have hused : name ∈ Schema.sortedNames draft.usedSchemes :=
      Schema.mem_sortedNames.2 (huses.used x hx name hname)
    rw [hnames, hschemes]
    exact SecuritySchemes.mem_keys_build_of_resolvable (huses.resolvable x hx hrecord name hname)
      hused
  · intro record hlast
    rw [hcomponents, part, Value.entries?, Option.bind_some, Table.get?_mapValues, hschemes,
      SecuritySchemes.get?_build_of_stored hlast]
    rfl

/-- A stored scheme that takes the name of a configured one. -/
def storedBearer : OverrideSnapshot :=
  { securitySchemes := [{ name := "bearerAuth", type := "oauth2" }] }

/-- A route that asks for a known scheme that nobody configured. -/
def guardedRoutes : List Route :=
  [{ method := "GET", path := "/reports", middleware := ["auth.basic"] }]

theorem build_security_guarded :
    ∃ doc, ((build {} noAnalysis storedBearer guardedRoutes).run ()).1 = .ok doc ∧
      doc.schemeNames = ["bearerAuth", "apiKey", "basicAuth"] ∧
      Secured storedBearer (assembled {} noAnalysis
        (start storedBearer (visibleRoutes storedBearer guardedRoutes))
        (visibleRoutes storedBearer guardedRoutes) ()) doc := by
  have hrun : ∃ doc, ((build {} noAnalysis storedBearer guardedRoutes).run ()).1 = .ok doc ∧
      doc.schemeNames = ["bearerAuth", "apiKey", "basicAuth"] := by
    decide +kernel
  obtain ⟨doc, hdoc, hnames⟩ := hrun
  exact ⟨doc, hdoc, hnames, build_security _ _ _ _ _ doc hdoc⟩

end Document

end RouteDoc
