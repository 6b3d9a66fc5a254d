import RouteDoc.Proofs.Document.Security
/-!
# RouteDoc.Proofs.Document.Credentials

**What the security of an operation means for callers.** Credentials satisfy a list of requirements
when they meet one of them (`Credentials.satisfy`), while a request has to pass every middleware of
its route (`Credentials.pass`).

An operation lists a requirement for each middleware that has one. So it is satisfied by credentials
that meet any of them (`security_alternatives`), and tells what it takes to pass all middleware
exactly when they ask for the same thing.
-/

namespace RouteDoc

/-- What a caller can show. -/
structure Credentials where
  /-- The schemes that are held. -/
  holds : String → Prop
  /-- The scopes that are granted for a scheme. -/
  grants : String → String → Prop

namespace Credentials

/-- Credentials meet a requirement with all of its schemes and their scopes. -/
def meets (c : Credentials) (requirement : RequirementObject) : Prop :=
  ∀ e ∈ requirement, c.holds e.1 ∧ ∀ scope ∈ e.2, c.grants e.1 scope

/-- Credentials satisfy a list with one of its requirements; where nothing is asked for, all do. -/
def satisfy (c : Credentials) : Option (List RequirementObject) → Prop
  | none => True
  | some requirements => requirements = [] ∨ ∃ requirement ∈ requirements, c.meets requirement

/-- Credentials pass a middleware when they meet what it asks for, if anything. -/
def pass (c : Credentials) (schemes : Table String SecuritySchemeConfig) (text : String) : Prop :=
  ∀ requirement, (Middleware.parse text).requirement? schemes = some requirement →
    c.meets requirement.toObject

/-- Credentials for one requirement and nothing else. -/
def only (requirement : SecurityRequirement) : Credentials where
  holds scheme := scheme = requirement.scheme
  grants scheme scope := scheme = requirement.scheme ∧ scope ∈ requirement.scopes

theorem meets_toObject {c : Credentials} {requirement : SecurityRequirement} :
    c.meets requirement.toObject ↔ c.holds requirement.scheme ∧
      ∀ scope ∈ requirement.scopes, c.grants requirement.scheme scope := by
  simp [meets, SecurityRequirement.toObject]

theorem only_meets {p q : SecurityRequirement} :
    (only q).meets p.toObject ↔ p.scheme = q.scheme ∧ p.scopes ⊆ q.scopes := by
  rw [meets_toObject]
  constructor
  · intro h
    exact ⟨h.1, fun scope hscope => (h.2 scope hscope).2⟩
  · intro h
    exact ⟨h.1, fun scope hscope => ⟨h.1, h.2 hscope⟩⟩

end Credentials

/-! ### The middleware of a route -/

/-- Requirements that ask for the same: one scheme, with the same scopes. -/
def SecurityRequirement.Alike (requirements : List SecurityRequirement) : Prop :=
  ∀ p ∈ requirements, ∀ q ∈ requirements,
    p.scheme = q.scheme ∧ ∀ scope, scope ∈ p.scopes ↔ scope ∈ q.scopes

namespace MiddlewareAnalysis

variable {schemes : Table String SecuritySchemeConfig} {middleware : List String}

theorem mem_requirements {requirement : SecurityRequirement} :
    requirement ∈ requirements schemes middleware ↔ ∃ text ∈ middleware,
      (Middleware.parse text).requirement? schemes = some requirement :=
  List.mem_filterMap

theorem pass_all_iff {c : Credentials} : (∀ text ∈ middleware, c.pass schemes text) ↔
    ∀ requirement ∈ requirements schemes middleware, c.meets requirement.toObject := by
  constructor
  · intro h requirement hmem
    obtain ⟨text, htext, hrequirement⟩ := mem_requirements.1 hmem
    exact h text htext requirement hrequirement
  · intro h text htext requirement hrequirement
    exact h requirement (mem_requirements.2 ⟨text, htext, hrequirement⟩)

/-- Whoever meets one requirement meets all of them, exactly when they ask for the same. -/
theorem meets_all_iff {requirements : List SecurityRequirement} :
    (∀ c : Credentials, (∃ q ∈ requirements, c.meets q.toObject) →
      ∀ p ∈ requirements, c.meets p.toObject) ↔ SecurityRequirement.Alike requirements := by
  constructor
  · intro h p hp q hq
    -- credentials for one of the two meet the other
    have hmeets : ∀ p ∈ requirements, ∀ q ∈ requirements, p.scheme = q.scheme ∧
        p.scopes ⊆ q.scopes := fun p hp q hq =>
      Credentials.only_meets.1
        (h (.only q) ⟨q, hq, Credentials.only_meets.2 ⟨rfl, List.Subset.refl _⟩⟩ p hp)
    obtain ⟨hscheme, hforth⟩ := hmeets p hp q hq
    obtain ⟨-, hback⟩ := hmeets q hq p hp
    exact ⟨hscheme, fun scope => ⟨fun hscope => hforth hscope, fun hscope => hback hscope⟩⟩
  · intro h c hany p hp
    obtain ⟨q, hq, hmeets⟩ := hany
    obtain ⟨hscheme, hscopes⟩ := h p hp q hq
    rw [Credentials.meets_toObject] at hmeets ⊢
    rw [hscheme]
    exact ⟨hmeets.1, fun scope hscope => hmeets.2 scope ((hscopes scope).1 hscope)⟩

end MiddlewareAnalysis

/-! ### The security of an operation -/

/-- An operation asks for what one of its middleware asks for. -/
structure Alternatives (schemes : Table String SecuritySchemeConfig) (middleware : List String)
    (x : Operation) : Prop where
  /-- Each middleware that has a requirement adds it, in order; without any there is no list. -/
  security : x.security =
    if (MiddlewareAnalysis.requirements schemes middleware).isEmpty then none
    else some ((MiddlewareAnalysis.requirements schemes middleware).map
      SecurityRequirement.toObject)
  /-- This is what stands in a document. -/
  rendered : Document.part (.obj x.toFragment) "security" =
    if (MiddlewareAnalysis.requirements schemes middleware).isEmpty then .null
    else .arr ((MiddlewareAnalysis.requirements schemes middleware).map fun requirement =>
      .obj [(requirement.scheme, .ofStrings requirement.scopes)])
  /-- It is satisfied by credentials that meet the requirement of one middleware. -/
  satisfy_iff : ∀ c : Credentials, c.satisfy x.security ↔
    (∀ text ∈ middleware, (Middleware.parse text).requirement? schemes = none) ∨
      ∃ text ∈ middleware, ∃ requirement,
        (Middleware.parse text).requirement? schemes = some requirement ∧
          c.meets requirement.toObject
  /-- Whoever passes all middleware satisfies it. -/
  of_pass : ∀ c : Credentials, (∀ text ∈ middleware, c.pass schemes text) → c.satisfy x.security
  /-- Whoever satisfies it passes all middleware, exactly when they ask for the same. -/
  pass_iff : (∀ c : Credentials, c.satisfy x.security → ∀ text ∈ middleware, c.pass schemes text) ↔
    SecurityRequirement.Alike (MiddlewareAnalysis.requirements schemes middleware)

open MiddlewareAnalysis in
theorem alternatives_of_security {schemes : Table String SecuritySchemeConfig}
    {middleware : List String} {x : Operation}
    (h : x.security = if (requirements schemes middleware).isEmpty then none
      else some ((requirements schemes middleware).map SecurityRequirement.toObject)) :
    Alternatives schemes middleware x := by
  -- one of the requirements is met, if there is any
  have hsatisfy (c : Credentials) : c.satisfy x.security ↔ requirements schemes middleware = [] ∨
      ∃ q ∈ requirements schemes middleware, c.meets q.toObject := by
    rw [h]
    cases requirements schemes middleware <;> simp [Credentials.satisfy]
  refine {
    security := h
    rendered := ?rendered
    satisfy_iff := fun c => ?satisfy_iff
    of_pass := fun c hpass => ?of_pass
    pass_iff := ?pass_iff }
  case rendered =>
    rw [Document.part_security_toFragment, h]
    split
    · rfl
    · rw [Option.map_some, Option.getD_some, List.map_map]
      rfl
  case satisfy_iff =>
    rw [hsatisfy, requirements, List.filterMap_eq_nil_iff, ← requirements]
    refine or_congr_right ?_
    constructor
    · intro hany
      obtain ⟨q, hq, hmeets⟩ := hany
      obtain ⟨text, htext, hrequirement⟩ := mem_requirements.1 hq
      exact ⟨text, htext, q, hrequirement, hmeets⟩
    · intro hany
      obtain ⟨text, htext, q, hrequirement, hmeets⟩ := hany
      exact ⟨q, mem_requirements.2 ⟨text, htext, hrequirement⟩, hmeets⟩
  case of_pass =>
    rw [pass_all_iff] at hpass
    rw [hsatisfy]
    cases hrequirements : requirements schemes middleware with
    | nil => exact .inl rfl
    | cons q rest =>
        have hq : q ∈ requirements schemes middleware := by simp [hrequirements]
        exact .inr ⟨q, List.mem_cons_self, hpass q hq⟩
  case pass_iff =>
    rw [← meets_all_iff]
    simp only [pass_all_iff, hsatisfy]
    constructor
    · intro hall c hmeets
      exact hall c (.inr hmeets)
    · intro hall c hany p hp
      rcases hany with hnil | hmeets
      · simp [hnil] at hp
      · exact hall c hmeets p hp

namespace Document

/-- **Requirements are alternatives.** An operation without stored requirements lists one for each
middleware that has one. Credentials satisfy the list when they meet the requirement of one
middleware, so passing all of them is enough; it is needed exactly when they ask for the same. -/
theorem security_alternatives (config : GeneratorConfig) (a : Assembler) (r : Route)
    (analysis : Except String Detection) (record : Option OverrideRecord) (d : Detection)
    (x : Operation) (hdetect : detect config r analysis = .ok d)
    (hrecord : record.bind OverrideRecord.securityRequirements = none)
    (hx : (Assembler.assemble config a r d record).1 = .ok x) :
    Alternatives config.securitySchemes r.middleware x := by
  obtain ⟨m, hof, hsecurity⟩ := security_detect hdetect
  obtain ⟨ps, -, rfl⟩ := Assembler.eq_operation_of_assemble hx
  refine alternatives_of_security ?_
  show Assembly.security d record = _
  rw [Assembly.security, hrecord, hsecurity, MiddlewareAnalysis.security_of hof]

/-- Administrators sign in, and have a scope. -/
def adminRoute : Route where
  method := "GET"
  path := "/admin"
  middleware := ["auth", "scope:admin"]

theorem security_alternatives_admin :
    ∃ d, detect {} adminRoute (.ok {}) = .ok d ∧
      ∃ x, (Assembler.assemble {} {} adminRoute d none).1 = .ok x ∧
        x.security = some [[("bearerAuth", [])], [("bearerAuth", ["admin"])]] ∧
        Alternatives (GeneratorConfig.securitySchemes {}) adminRoute.middleware x := by
  have hrun : ∃ d, detect {} adminRoute (.ok {}) = .ok d ∧
      ∃ x, (Assembler.assemble {} {} adminRoute d none).1 = .ok x ∧
        x.security = some [[("bearerAuth", [])], [("bearerAuth", ["admin"])]] := by
    decide +kernel
  obtain ⟨d, hd, x, hx, hsecurity⟩ := hrun
  exact ⟨d, hd, x, hx, hsecurity,
    security_alternatives {} {} adminRoute (.ok {}) none d x hd rfl hx⟩

/-- Whoever signs in satisfies what is written about administrators, without the scope. -/
theorem not_all_pass_admin :
    ∃ d, detect {} adminRoute (.ok {}) = .ok d ∧
      ∃ x, (Assembler.assemble {} {} adminRoute d none).1 = .ok x ∧
        ∃ c : Credentials, c.satisfy x.security ∧
          ∃ text ∈ adminRoute.middleware, ¬ c.pass (GeneratorConfig.securitySchemes {}) text := by
  have hrun : ∃ d, detect {} adminRoute (.ok {}) = .ok d ∧
      ∃ x, (Assembler.assemble {} {} adminRoute d none).1 = .ok x ∧
        x.security = some [[("bearerAuth", [])], [("bearerAuth", ["admin"])]] := by
    decide +kernel
  have hscope : (Middleware.parse "scope:admin").requirement? (GeneratorConfig.securitySchemes {}) =
      some ⟨"bearerAuth", ["admin"]⟩ := by
    decide +kernel
  obtain ⟨d, hd, x, hx, hsecurity⟩ := hrun
  refine ⟨d, hd, x, hx, .only ⟨"bearerAuth", []⟩, ?_, "scope:admin", by decide, fun hpass => ?_⟩
  · rw [hsecurity]
    exact .inr ⟨_, List.mem_cons_self, by simp [Credentials.meets, Credentials.only]⟩
  · have hscopes := (Credentials.only_meets.1 (hpass _ hscope)).2
    simp at hscopes

end Document

end RouteDoc
