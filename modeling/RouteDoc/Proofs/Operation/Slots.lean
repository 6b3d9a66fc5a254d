import RouteDoc.Proofs.Operation.Assembly
/-!
# RouteDoc.Proofs.Operation.Slots

**Stored documentation wins slot by slot.** An operation is made of slots (`Slot`), and each slot
looks at a few fields of what was stored about the route (`Slot.fields`). Whatever else is stored,
two records that agree on the fields of a slot give the same slot (`override_slotwise`); fields that
are absent leave it to detection, as if nothing was stored at all.

Descriptions and examples are laid over the same responses. Each leaves alone what the other one
writes (`mapValues_describe`, `mapValues_exemplify`), and neither touches statuses, schemas or
headers.
-/

namespace RouteDoc

open Text

/-! ### Laying over responses -/

namespace Assembly

section

variable {β : Type}

/-- Describing a response leaves alone what does not look at descriptions. -/
theorem mapValues_describe {f : Response → β}
    (hf : ∀ (r : Response) (text : String), f { r with description := text } = f r)
    (entries : Table String String) (rs : Table String Response) :
    Table.mapValues f (entries.foldl describe rs) = Table.mapValues f rs := by
  induction entries generalizing rs with
  | nil => rfl
  | cons e rest ih =>
      rw [List.foldl_cons, ih, describe]
      cases hget : Table.get? rs e.1 with
      | none => rfl
      | some r =>
          dsimp only
          rw [Table.mapValues_insert, hf]
          exact Table.insert_of_get? (by rw [Table.get?_mapValues, hget]; rfl)

/-- Giving a response an example leaves alone what does not look at examples. -/
theorem mapValues_exemplify {f : Response → β}
    (hf : ∀ (r : Response) (v : Value), f { r with sample := v } = f r)
    (entries : Fragment) (rs : Table String Response) :
    Table.mapValues f (entries.foldl exemplify rs) = Table.mapValues f rs := by
  induction entries generalizing rs with
  | nil => rfl
  | cons e rest ih =>
      rw [List.foldl_cons, ih, exemplify]
      cases hget : Table.get? rs e.1 with
      | none => rfl
      | some r =>
          dsimp only
          split
          · rw [Table.mapValues_insert, hf]
            exact Table.insert_of_get? (by rw [Table.get?_mapValues, hget]; rfl)
          · rfl

end

/-- The content of a response: its schema and its example. -/
def content (r : Response) : Option Fragment × Value := (r.schema, r.sample)

/-- Examples are given by what the responses hold, whatever their descriptions. -/
theorem mapValues_content_exemplify {rs rs' : Table String Response}
    (h : Table.mapValues content rs = Table.mapValues content rs') (entries : Fragment) :
    Table.mapValues content (entries.foldl exemplify rs) =
      Table.mapValues content (entries.foldl exemplify rs') := by
  induction entries generalizing rs rs' with
  | nil => exact h
  | cons e rest ih =>
      refine ih ?_
      have hget := congrArg (Table.get? · e.1) h
      simp only [Table.get?_mapValues] at hget
      unfold exemplify
      cases hr : Table.get? rs e.1 with
      | none =>
          rw [hr, eq_comm, Option.map_none, Option.map_eq_none_iff] at hget
          rw [hget]
          exact h
      | some r =>
          rw [hr, eq_comm, Option.map_some, Option.map_eq_some_iff] at hget
          obtain ⟨r', hr', hcontent⟩ := hget
          obtain ⟨hschema, hsample⟩ := Prod.mk.inj hcontent
          rw [hr']
          dsimp only
          rw [hschema]
          split
          · rw [Table.mapValues_insert, Table.mapValues_insert, h]
            simp only [content]
          · exact h

end Assembly

/-! ### Slots -/

/-- The slots of an operation. -/
inductive Slot where
  /-- Its method and path. -/
  | place
  | operationId
  | summary
  | description
  | tags
  | deprecated
  | externalDocs
  | parameters
  /-- The schema of the body that is sent, and its media type. -/
  | bodySchema
  | bodyRequired
  | bodyExample
  | bodyDescription
  /-- The responses as they are. -/
  | responses
  /-- The statuses with the descriptions. -/
  | responseDescriptions
  /-- The statuses with the schemas and examples. -/
  | responseContents
  /-- The statuses with the schemas and headers. -/
  | responseFrame
  | security

namespace Slot

/-- What the fields hold that a slot looks at. -/
def Fields : Slot → Type
  | place | responseFrame => Unit
  | operationId | summary | description | bodyDescription => Option String
  | tags => Option (List String)
  | deprecated | bodyRequired => Option Bool
  | externalDocs => Option String × Option String
  | parameters => Option (List Fragment)
  | bodySchema => Option Fragment
  | bodyExample => Value
  | responses => Option (Table String String) × Option Fragment
  | responseDescriptions => Option (Table String String)
  | responseContents => Option Fragment
  | security => Option (List RequirementObject)

/-- The fields that a slot looks at. Where nothing is stored they are as if absent. -/
def fields (o : Option OverrideRecord) : (slot : Slot) → slot.Fields
  | place | responseFrame => ()
  | operationId => o.bind OverrideRecord.operationId
  | summary => o.bind OverrideRecord.summary
  | description => o.bind OverrideRecord.description
  | tags => o.bind OverrideRecord.tags
  | deprecated => o.bind OverrideRecord.deprecated
  -- a description of nothing is not looked at
  | externalDocs =>
      let url := o.bind OverrideRecord.externalDocsUrl
      (url, url.bind fun _ => o.bind OverrideRecord.externalDocsDescription)
  | parameters => o.bind OverrideRecord.customParameters
  | bodySchema => o.bind OverrideRecord.requestBodySchema
  | bodyRequired => o.bind OverrideRecord.requestBodyRequired
  | bodyExample => (o.map OverrideRecord.requestBodyExample).getD .null
  | bodyDescription => o.bind OverrideRecord.requestBodyDescription
  | responses =>
      (o.bind OverrideRecord.responseDescriptions, o.bind OverrideRecord.responseExamples)
  | responseDescriptions => o.bind OverrideRecord.responseDescriptions
  | responseContents => o.bind OverrideRecord.responseExamples
  | security => o.bind OverrideRecord.securityRequirements

/-- What a slot holds. -/
def Part : Slot → Type
  | place => String × String
  | operationId | summary => String
  | description => Option String
  | tags => List String
  | deprecated => Bool
  | externalDocs => Option (Table String String)
  | parameters => List Parameter
  | bodySchema => Option (Fragment × String)
  | bodyRequired => Option Bool
  | bodyExample => Option Value
  | bodyDescription => Option (Option String)
  | responses => Table String Response
  | responseDescriptions => Table String String
  | responseContents => Table String (Option Fragment × Value)
  | responseFrame => Table String (Option Fragment × Option Fragment)
  | security => Option (List RequirementObject)

/-- A slot of an operation. -/
def part (x : Operation) : (slot : Slot) → slot.Part
  | place => (x.method, x.path)
  | operationId => x.operationId
  | summary => x.summary
  | description => x.description
  | tags => x.tags
  | deprecated => x.deprecated
  | externalDocs => x.externalDocs
  | parameters => x.parameters
  | bodySchema => x.requestBody.map fun b => (b.schema, b.contentType)
  | bodyRequired => x.requestBody.map RequestBody.required
  | bodyExample => x.requestBody.map RequestBody.sample
  | bodyDescription => x.requestBody.map RequestBody.description
  | responses => x.responses
  | responseDescriptions => Table.mapValues Response.description x.responses
  | responseContents => Table.mapValues Assembly.content x.responses
  | responseFrame => Table.mapValues (fun r => (r.schema, r.headers)) x.responses
  | security => x.security

/-- There is nothing in a body besides its slots. -/
theorem body_ext {b b' : Option RequestBody}
    (hschema : b.map (fun b => (b.schema, b.contentType)) =
      b'.map (fun b => (b.schema, b.contentType)))
    (hrequired : b.map RequestBody.required = b'.map RequestBody.required)
    (hexample : b.map RequestBody.sample = b'.map RequestBody.sample)
    (hdescription : b.map RequestBody.description = b'.map RequestBody.description) :
    b = b' := by
  cases b with
  | none =>
      rw [eq_comm, Option.map_none, Option.map_eq_none_iff] at hrequired
      exact hrequired.symm
  | some b =>
      cases b' with
      | none => simp at hrequired
      | some b' =>
          simp only [Option.map_some, Option.some.injEq, Prod.mk.injEq]
            at hschema hrequired hexample hdescription
          obtain ⟨hschema, htype⟩ := hschema
          rw [Option.some.injEq]
          cases b
          cases b'
          simp_all only

/-- There is nothing in an operation besides its slots. -/
theorem part_ext {x y : Operation} (h : ∀ slot : Slot, slot.part x = slot.part y) : x = y := by
  have hplace : (x.method, x.path) = (y.method, y.path) := h .place
  have hbody : x.requestBody = y.requestBody :=
    body_ext (h .bodySchema) (h .bodyRequired) (h .bodyExample) (h .bodyDescription)
  have hid : x.operationId = y.operationId := h .operationId
  have hsummary : x.summary = y.summary := h .summary
  have hdescription : x.description = y.description := h .description
  have htags : x.tags = y.tags := h .tags
  have hdeprecated : x.deprecated = y.deprecated := h .deprecated
  have hdocs : x.externalDocs = y.externalDocs := h .externalDocs
  have hparameters : x.parameters = y.parameters := h .parameters
  have hresponses : x.responses = y.responses := h .responses
  have hsecurity : x.security = y.security := h .security
  obtain ⟨hmethod, hpath⟩ := Prod.mk.inj hplace
  cases x
  cases y
  simp_all only

end Slot

/-! ### Two operations of one route -/

section

variable {config : GeneratorConfig} {a : Assembler} {r : Route} {d : Detection}
  {o o' : Option OverrideRecord}

theorem Assembler.operationId_congr
    (h : Slot.fields o .operationId = Slot.fields o' .operationId) :
    a.operationId r o = a.operationId r o' := by
  have hasked : o.bind OverrideRecord.operationId = o'.bind OverrideRecord.operationId := h
  unfold operationId
  rw [hasked]

theorem Assembly.bodySchema_congr (h : Slot.fields o .bodySchema = Slot.fields o' .bodySchema) :
    bodySchema d o = bodySchema d o' := by
  have hschema : o.bind OverrideRecord.requestBodySchema =
      o'.bind OverrideRecord.requestBodySchema := h
  unfold bodySchema
  rw [hschema]

/-- Whether there is a body depends on the method, whatever is stored. -/
theorem Assembly.map_requestBody {β : Type} {f : RequestBody → β}
    (h : f (body d o) = f (body d o')) :
    (requestBody r d o).map f = (requestBody r d o').map f := by
  rw [requestBody_eq, requestBody_eq]
  split
  · rw [Option.map_some, Option.map_some, h]
  · rfl

theorem Assembler.eq_body_of_mem {ps : List Parameter} {b : RequestBody}
    (h : b ∈ (operation config a r d o ps).requestBody) : b = Assembly.body d o := by
  dsimp only [operation] at h
  rw [Assembly.requestBody_eq, Option.mem_def] at h
  split at h
  · exact (Option.some.inj h).symm
  · exact nomatch h

theorem Assembler.registryAfter_congr
    (h : Slot.fields o .bodySchema = Slot.fields o' .bodySchema) :
    a.registryAfter r d o = a.registryAfter r d o' := by
  have hschema : (Assembly.requestBody r d o).map RequestBody.schema =
      (Assembly.requestBody r d o').map RequestBody.schema :=
    Assembly.map_requestBody (Assembly.bodySchema_congr h)
  unfold registryAfter
  rw [hschema]

/-! Responses, one look at a time. -/

theorem Assembly.description_overrideResponses (rs : Table String Response)
    (h : Slot.fields o .responseDescriptions = Slot.fields o' .responseDescriptions) :
    Table.mapValues Response.description (overrideResponses o rs) =
      Table.mapValues Response.description (overrideResponses o' rs) := by
  have htexts : o.bind OverrideRecord.responseDescriptions =
      o'.bind OverrideRecord.responseDescriptions := h
  unfold overrideResponses
  dsimp only
  rw [mapValues_exemplify fun _ _ => rfl, mapValues_exemplify fun _ _ => rfl, htexts]

theorem Assembly.content_overrideResponses (rs : Table String Response)
    (h : Slot.fields o .responseContents = Slot.fields o' .responseContents) :
    Table.mapValues content (overrideResponses o rs) =
      Table.mapValues content (overrideResponses o' rs) := by
  have hexamples : o.bind OverrideRecord.responseExamples =
      o'.bind OverrideRecord.responseExamples := h
  unfold overrideResponses
  dsimp only
  rw [hexamples]
  refine mapValues_content_exemplify ?_ _
  -- descriptions are no part of the content
  rw [mapValues_describe fun _ _ => rfl, mapValues_describe fun _ _ => rfl]

/-- Whatever is stored, the responses keep their statuses, schemas and headers. -/
theorem Assembly.frame_overrideResponses (rs : Table String Response) :
    Table.mapValues (fun r => (r.schema, r.headers)) (overrideResponses o rs) =
      Table.mapValues (fun r => (r.schema, r.headers)) rs := by
  unfold overrideResponses
  dsimp only
  rw [mapValues_exemplify fun _ _ => rfl, mapValues_describe fun _ _ => rfl]

theorem Assembly.overrideResponses_congr (rs : Table String Response)
    (h : Slot.fields o .responses = Slot.fields o' .responses) :
    overrideResponses o rs = overrideResponses o' rs := by
  obtain ⟨htexts, hexamples⟩ := Prod.mk.inj h
  unfold overrideResponses
  rw [htexts, hexamples]

theorem Assembly.externalDocs_congr
    (h : Slot.fields o .externalDocs = Slot.fields o' .externalDocs) :
    externalDocs o = externalDocs o' := by
  obtain ⟨hurl, htext⟩ := Prod.mk.inj h
  unfold externalDocs
  rw [hurl]
  cases hfield : o'.bind OverrideRecord.externalDocsUrl with
  | none => rfl
  | some url =>
      -- with a place to read more, its description is looked at
      rw [hurl, hfield, Option.bind_some, Option.bind_some] at htext
      rw [htext]

/-- A slot is given by its fields. -/
theorem Assembler.part_operation (slot : Slot) (h : slot.fields o = slot.fields o')
    {ps : List Parameter} :
    slot.part (operation config a r d o
        (((o.bind OverrideRecord.customParameters).getD []).foldl Assembly.addCustom ps)) =
      slot.part (operation config a r d o'
        (((o'.bind OverrideRecord.customParameters).getD []).foldl Assembly.addCustom ps)) := by
  cases slot with
  | place => rfl
  | operationId => exact congrArg Prod.fst (operationId_congr h)
  | summary => exact congrArg (Option.getD · (Naming.summary r)) h
  | description => exact h
  | tags => exact congrArg (Option.getD · (Naming.tags config.tags r)) h
  | deprecated => exact congrArg (Option.getD · false) h
  | externalDocs => exact Assembly.externalDocs_congr h
  | parameters =>
      exact congrArg (fun custom => (custom.getD []).foldl Assembly.addCustom ps) h
  | bodySchema =>
      dsimp only [Slot.part, operation]
      refine Assembly.map_requestBody ?_
      -- the media type is made from the schema
      exact congrArg (fun schema => (schema, Assembly.bodyType d schema))
        (Assembly.bodySchema_congr h)
  | bodyRequired =>
      dsimp only [Slot.part, operation]
      exact Assembly.map_requestBody (congrArg (Option.getD · true) h)
  | bodyExample =>
      dsimp only [Slot.part, operation]
      exact Assembly.map_requestBody h
  | bodyDescription =>
      dsimp only [Slot.part, operation]
      exact Assembly.map_requestBody h
  | responses => exact Assembly.overrideResponses_congr _ h
  | responseDescriptions => exact Assembly.description_overrideResponses _ h
  | responseContents => exact Assembly.content_overrideResponses _ h
  | responseFrame =>
      exact (Assembly.frame_overrideResponses _).trans (Assembly.frame_overrideResponses _).symm
  | security =>
      have hfield : o.bind OverrideRecord.securityRequirements =
          o'.bind OverrideRecord.securityRequirements := h
      dsimp only [Slot.part, operation]
      unfold Assembly.security
      rw [hfield]

end

/-! ### What is stored, slot by slot -/

/-- What two records make of one route, slot by slot. -/
structure Slotwise (o o' : Option OverrideRecord)
    (p q : Except (List Issue) Operation × Assembler) : Prop where
  /-- Neither fails unless the other one does, with the same issues. -/
  failure : ∀ issues, p.1 = .error issues ↔ q.1 = .error issues
  /-- Where the fields of a slot agree, so do the slots. -/
  slots : ∀ x y, p.1 = .ok x → q.1 = .ok y →
    ∀ slot : Slot, slot.fields o = slot.fields o' → slot.part x = slot.part y
  /-- The identifiers that are used depend on the identifier that is stored. -/
  ids : Slot.fields o .operationId = Slot.fields o' .operationId → p.2.ids = q.2.ids
  /-- The schemas that are known depend on the schema of the body that is stored. -/
  registry : Slot.fields o .bodySchema = Slot.fields o' .bodySchema →
    p.2.registry = q.2.registry

/-- Records that agree on every slot make the same of a route. -/
theorem Slotwise.eq {o o' : Option OverrideRecord}
    {p q : Except (List Issue) Operation × Assembler} (h : Slotwise o o' p q)
    (hfields : ∀ slot : Slot, slot.fields o = slot.fields o') : p = q := by
  obtain ⟨result, registry, ids⟩ := p
  obtain ⟨result', registry', ids'⟩ := q
  have hregistry : registry = registry' := h.registry (hfields .bodySchema)
  have hids : ids = ids' := h.ids (hfields .operationId)
  have hresult : result = result' := by
    cases result with
    | error issues => exact ((h.failure issues).1 rfl).symm
    | ok x =>
        cases result' with
        | error issues => exact (h.failure issues).2 rfl
        | ok y =>
            rw [Slot.part_ext fun slot => h.slots x y rfl rfl slot (hfields slot)]
  rw [hresult, hregistry, hids]

/-- What is stored is in the operation as it stands, an empty text, an empty list or `false`
included. -/
structure Verbatim (r : Route) (record : OverrideRecord) (x : Operation) : Prop where
  summary : ∀ text, record.summary = some text → x.summary = text
  description : ∀ text, record.description = some text → x.description = some text
  tags : ∀ tags, record.tags = some tags → x.tags = tags
  deprecated : ∀ b, record.deprecated = some b → x.deprecated = b
  security : ∀ requirements, record.securityRequirements = some requirements →
    x.security = some requirements
  /-- A method that writes has a body, and no other method has one. -/
  writes : x.requestBody.isSome ↔ upper r.method ∈ Assembly.writeMethods
  bodySchema : ∀ body ∈ x.requestBody, ∀ schema, record.requestBodySchema = some schema →
    body.schema = schema
  bodyRequired : ∀ body ∈ x.requestBody, ∀ b, record.requestBodyRequired = some b →
    body.required = b
  bodyExample : ∀ body ∈ x.requestBody, body.sample = record.requestBodyExample
  bodyDescription : ∀ body ∈ x.requestBody, ∀ text, record.requestBodyDescription = some text →
    body.description = some text

/-- A record of a route with nothing in it that is written about an operation. -/
def OverrideRecord.bare (record : OverrideRecord) : OverrideRecord where
  httpMethod := record.httpMethod
  uri := record.uri
  routeName := record.routeName
  controller := record.controller
  action := record.action
  isHidden := record.isHidden
  autoDetectedData := record.autoDetectedData
  lastScannedAt := record.lastScannedAt

theorem Slot.fields_bare (record : OverrideRecord) (slot : Slot) :
    slot.fields (some record.bare) = slot.fields none := by
  cases slot <;> rfl

namespace Assembler

variable (config : GeneratorConfig) (a : Assembler) (r : Route) (d : Detection)

theorem slotwise_assemble (o o' : Option OverrideRecord) :
    Slotwise o o' (assemble config a r d o) (assemble config a r d o') := by
  rw [assemble_eq, assemble_eq, Assembly.parameters_eq config r d o,
    Assembly.parameters_eq config r d o']
  -- both start with the parameters that are there without a record
  cases Assembly.parameters config r d none with
  | error issues =>
      exact {
        failure := fun _ => Iff.rfl
        slots := fun x y hx => nomatch hx
        ids := fun h => congrArg Prod.snd (operationId_congr h)
        registry := fun _ => rfl }
  | ok ps =>
      refine {
        failure := fun _ => ⟨fun h => (nomatch h), fun h => (nomatch h)⟩
        slots := fun x y hx hy slot h => ?_
        ids := fun h => congrArg Prod.snd (operationId_congr h)
        registry := registryAfter_congr }
      obtain rfl := Except.ok.inj hx
      obtain rfl := Except.ok.inj hy
      exact part_operation slot h

theorem verbatim_operation (record : OverrideRecord) (ps : List Parameter) :
    Verbatim r record (operation config a r d (some record) ps) where
  summary text h := by simp [operation, h]
  description text h := by simp [operation, h]
  tags tags h := by simp [operation, h]
  deprecated b h := by simp [operation, h]
  security requirements h := by simp [operation, Assembly.security, h]
  writes := by
    dsimp only [operation]
    unfold Assembly.requestBody
    split <;> simp_all
  bodySchema body hbody schema h := by
    rw [eq_body_of_mem hbody]
    simp [Assembly.body, Assembly.bodySchema, h]
  bodyRequired body hbody b h := by
    rw [eq_body_of_mem hbody]
    simp [Assembly.body, h]
  bodyExample body hbody := by
    rw [eq_body_of_mem hbody]
    rfl
  bodyDescription body hbody text h := by
    rw [eq_body_of_mem hbody]
    simp [Assembly.body, h]

/-- **Stored documentation wins slot by slot.** Whatever two records say about a route (no record
says nothing), their operations agree in every slot whose fields agree, and so do the identifiers
and the schemas that are left. What a record says stands as it is, and a record that says nothing
makes the same operation, registry and identifiers as no record. -/
theorem override_slotwise :
    (∀ o o', Slotwise o o' (assemble config a r d o) (assemble config a r d o')) ∧
    (∀ record x, (assemble config a r d (some record)).1 = .ok x → Verbatim r record x) ∧
    ∀ record : OverrideRecord,
      assemble config a r d (some record.bare) = assemble config a r d none := by
  refine ⟨slotwise_assemble config a r d, fun record x hx => ?_, fun record => ?_⟩
  · rw [assemble_eq] at hx
    cases hps : Assembly.parameters config r d (some record) with
    | error issues => simp [hps] at hx
    | ok ps =>
        rw [hps] at hx
        obtain rfl := Except.ok.inj hx
        exact verbatim_operation config a r d record ps
  · exact (slotwise_assemble config a r d _ _).eq (Slot.fields_bare record)

-- An empty list is a value of its own: nobody has to sign in here, whatever the middleware says.
example : ((assemble {} {} { method := "GET", path := "/users" }
    { security := [{ scheme := "bearer" }] }
    (some { httpMethod := "GET", uri := "/users", tags := some [],
            securityRequirements := some [] })).1.toOption.map
      fun x => (x.tags, x.security)) = some ([], some []) := by
  decide +kernel

end Assembler

end RouteDoc
