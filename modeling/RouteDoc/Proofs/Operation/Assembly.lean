import RouteDoc.Operation.Assembly
/-!
# RouteDoc.Proofs.Operation.Assembly

**What putting an operation together does.** It fails where a detected query parameter makes no
parameter, and otherwise gives `operation` and leaves `registryAfter` (`assemble_eq`). What is
stored about a route has no say in whether it fails (`parameters_eq`).
-/

namespace RouteDoc

open Text

/-! ### Parts of an operation -/

namespace Assembly

/-- Stored parameters are added to those that are there without them. -/
theorem parameters_eq (config : GeneratorConfig) (r : Route) (d : Detection)
    (o : Option OverrideRecord) :
    parameters config r d o = (parameters config r d none).map fun ps =>
      ((o.bind OverrideRecord.customParameters).getD []).foldl addCustom ps := by
  unfold parameters
  cases d.queryParameters.mapM fun p => (queryParameter p).toExcept <;> rfl

/-- The schema of a successful response, for the prefix of references. -/
def success (base : String) (d : Detection) : Fragment :=
  match d.responses with
  | [] => Envelope.unknown
  | shape :: _ =>
      let item := Schema.refTo base shape.name
      if shape.isCollection then Envelope.paginated item else Envelope.single item

theorem base_registerShape (registry : Registry) (d : Detection) (shape : ResponseShape) :
    (registerShape registry d shape).base = registry.base := by
  -- schemas are added, with their dependencies, and nothing else changes
  have hadds : ∀ (components : Table String Fragment) (start : Registry),
      (components.foldl (fun registry e =>
        if registry.has e.1 then registry else registry.add e.1 (.obj e.2)) start).base =
          start.base := by
    intro components
    induction components with
    | nil => intro start; rfl
    | cons e rest ih =>
        intro start
        rw [List.foldl_cons, ih]
        split <;> rfl
  unfold registerShape
  dsimp only
  rw [hadds]
  split <;> rfl

theorem successSchema_fst (registry : Registry) (d : Detection) :
    (successSchema registry d).1 = success registry.base d := by
  unfold successSchema success
  cases d.responses with
  | nil => rfl
  | cons shape rest =>
      simp only [Registry.refer, base_registerShape]

/-- The body of a method that sends one. -/
def body (d : Detection) (o : Option OverrideRecord) : RequestBody where
  required := (o.bind OverrideRecord.requestBodyRequired).getD true
  schema := bodySchema d o
  sample := (o.map OverrideRecord.requestBodyExample).getD .null
  description := o.bind OverrideRecord.requestBodyDescription
  contentType := bodyType d (bodySchema d o)

theorem requestBody_eq (r : Route) (d : Detection) (o : Option OverrideRecord) :
    requestBody r d o = if upper r.method ∈ writeMethods then some (body d o) else none := rfl

end Assembly

/-! ### Whole operations -/

namespace Assembler

/-- The operation of a route, given its parameters. -/
def operation (config : GeneratorConfig) (a : Assembler) (r : Route) (d : Detection)
    (o : Option OverrideRecord) (parameters : List Parameter) : Operation where
  method := lower r.method
  path := Path.template r.path
  operationId := (a.operationId r o).1
  summary := (o.bind OverrideRecord.summary).getD (Naming.summary r)
  description := o.bind OverrideRecord.description
  tags := (o.bind OverrideRecord.tags).getD (Naming.tags config.tags r)
  deprecated := (o.bind OverrideRecord.deprecated).getD false
  externalDocs := Assembly.externalDocs o
  parameters := parameters
  requestBody := Assembly.requestBody r d o
  responses := Assembly.overrideResponses o
    (Assembly.detectedResponses config r d (Assembly.success a.registry.base d))
  security := Assembly.security d o

/-- The registry that an operation leaves. -/
def registryAfter (a : Assembler) (r : Route) (d : Detection) (o : Option OverrideRecord) :
    Registry :=
  let noted := match (Assembly.requestBody r d o).map RequestBody.schema with
    | some schema => a.registry.note (.obj schema)
    | none => a.registry
  (Assembly.successSchema noted d).2

/-- Everything that putting an operation together does. -/
theorem assemble_eq (config : GeneratorConfig) (a : Assembler) (r : Route) (d : Detection)
    (o : Option OverrideRecord) :
    assemble config a r d o =
      match Assembly.parameters config r d o with
      | .error issues => (.error issues, { a with ids := (a.operationId r o).2 })
      | .ok ps => (.ok (operation config a r d o ps),
          { registry := a.registryAfter r d o, ids := (a.operationId r o).2 }) := by
  unfold assemble
  cases Assembly.parameters config r d o with
  | error issues => rfl
  | ok ps =>
      dsimp only
      rw [Assembly.successSchema_fst]
      unfold operation registryAfter
      cases Assembly.requestBody r d o <;> rfl

/-- Every operation that is put together. -/
theorem eq_operation_of_assemble {config : GeneratorConfig} {a : Assembler} {r : Route}
    {d : Detection} {o : Option OverrideRecord} {x : Operation}
    (h : (assemble config a r d o).1 = .ok x) :
    ∃ ps, Assembly.parameters config r d o = .ok ps ∧ x = operation config a r d o ps := by
  rw [assemble_eq] at h
  cases hps : Assembly.parameters config r d o with
  | error issues =>
      rw [hps] at h
      exact nomatch h
  | ok ps =>
      rw [hps] at h
      exact ⟨ps, rfl, (Except.ok.inj h).symm⟩

/-- No operation changes what stands before names in references. -/
theorem base_registryAfter (a : Assembler) (r : Route) (d : Detection)
    (o : Option OverrideRecord) : (a.registryAfter r d o).base = a.registry.base := by
  have hsuccess : ∀ registry, (Assembly.successSchema registry d).2.base = registry.base := by
    intro registry
    unfold Assembly.successSchema
    cases d.responses with
    | nil => rfl
    | cons shape rest => exact Assembly.base_registerShape registry d shape
  unfold registryAfter
  dsimp only
  rw [hsuccess]
  split <;> rfl

end Assembler

end RouteDoc
