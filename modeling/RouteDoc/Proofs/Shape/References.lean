import RouteDoc.Proofs.Schema.Build
import RouteDoc.Proofs.Shape.Flattening
/-!
# RouteDoc.Proofs.Shape.References

**References of inferred schemas lead somewhere.** Every text under a `$ref` in an inferred schema is
a reference that was handed out for a name, and every such name is in the log (`RefersTo`).

* `tells_value` and `tells_infer` say so for an expression and for a tree: the literals in them are no
  objects, so nothing else can stand under a `$ref`.
* `Bound` is the invariant of an inferencer in use: the registry has been told every name of the log.
* `references_resolve` follows an inferencer and its registry through any session.
-/

namespace RouteDoc.Shape

open RouteDoc.Schema

/-! ### Texts under a `$ref` -/

/-- All texts under a `$ref` at any depth of a value, whatever they start with. -/
def referenceTexts (v : Value) : List String := mentions "" v

theorem ownReference_empty {entries : Fragment} {s : String} :
    s ∈ ownReference "" entries ↔ Table.get? entries "$ref" = some (.str s) := by
  have hname : ∀ t, nameUnder? "" t = some t := fun t => by
    simp [nameUnder?, Text.startsWith, Text.drop]
  unfold ownReference
  split
  · rename_i t ht
    rw [ht, hname]
    simp [eq_comm]
  · rename_i hnone
    exact iff_of_false List.not_mem_nil (hnone s)

theorem mem_referenceTexts_obj {entries : Fragment} {s : String} :
    s ∈ referenceTexts (.obj entries) ↔ Table.get? entries "$ref" = some (.str s) ∨
      ∃ e ∈ entries, s ∈ referenceTexts e.2 := by
  rw [referenceTexts, mentions, List.mem_append, ownReference_empty, mem_entryMentions]
  rfl

/-- The schemas that the names of properties and methods suggest. -/
inductive Suggested : Fragment → Prop where
  | type (type : String) : Suggested (typeSchema type)
  | format (format : String) : Suggested (formatSchema format)
  | texts : Suggested textArray

theorem suggested_schemaOfProperty (name : String) : Suggested (schemaOfProperty name) := by
  unfold schemaOfProperty
  repeat' split
  all_goals constructor

theorem suggested_schemaOfMethod (name : String) : Suggested (schemaOfMethod name) := by
  unfold schemaOfMethod
  repeat' split
  all_goals constructor

/-- Every text under a `$ref` is a reference to one of the names. -/
def RefersTo (base : String) (names : List String) (v : Value) : Prop :=
  ∀ s ∈ referenceTexts v, ∃ name ∈ names, s = base ++ name

section

variable {base : String} {names more : List String}

theorem RefersTo.mono {v : Value} (h : RefersTo base names v) (hmore : names ⊆ more) :
    RefersTo base more v := by
  intro s hs
  obtain ⟨name, hname, heq⟩ := h s hs
  exact ⟨name, hmore hname, heq⟩

/-- An object without a text under `$ref` refers to what its values refer to. -/
theorem refersTo_obj {entries : Fragment}
    (hown : ∀ s, Table.get? entries "$ref" ≠ some (.str s))
    (hentries : ∀ e ∈ entries, RefersTo base names e.2) : RefersTo base names (.obj entries) := by
  intro s hs
  rcases mem_referenceTexts_obj.1 hs with hself | ⟨e, he, hin⟩
  · exact absurd hself (hown s)
  · exact hentries e he s hin

theorem refersTo_of_kind {v : Value} (hobj : v.kind ≠ .obj) (harr : v.kind ≠ .arr) :
    RefersTo base names v := by
  intro s hs
  cases v with
  | obj entries => exact absurd rfl hobj
  | arr items => exact absurd rfl harr
  | _ => simp [referenceTexts, mentions] at hs

theorem refersTo_refTo {name : String} (h : name ∈ names) :
    RefersTo base names (.obj (refTo base name)) := by
  intro s hs
  rcases mem_referenceTexts_obj.1 hs with hself | ⟨e, he, hin⟩
  · simp only [refTo, Table.get?, if_pos, Option.some.injEq, Value.str.injEq] at hself
    exact ⟨name, h, hself.symm⟩
  · obtain rfl := List.mem_singleton.1 he
    simp [referenceTexts, mentions] at hin

/-- What has neither a `$ref` nor anything inside refers to nothing. -/
theorem refersTo_flat {entries : Fragment}
    (h : ∀ e ∈ entries, e.1 ≠ "$ref" ∧ e.2.kind ≠ .obj ∧ e.2.kind ≠ .arr) :
    RefersTo base names (.obj entries) := by
  refine refersTo_obj (fun s hs => ?_) fun e he => refersTo_of_kind (h e he).2.1 (h e he).2.2
  exact (h _ (Table.mem_of_get? hs)).1 rfl

/-- A list refers to what its items refer to, and an object to what its properties refer to. -/
theorem refersTo_nested (type : String) {key : String} {inner : Fragment} (hkey : key ≠ "$ref")
    (h : RefersTo base names (.obj inner)) :
    RefersTo base names (.obj [("type", .str type), (key, .obj inner)]) := by
  refine refersTo_obj (by simp [Table.get?, hkey]) fun e he => ?_
  rcases List.mem_cons.1 he with rfl | he
  · exact refersTo_of_kind (by simp [Value.kind]) (by simp [Value.kind])
  · obtain rfl := List.mem_singleton.1 he
    exact h

theorem Suggested.refersTo {schema : Fragment} (h : Suggested schema) :
    RefersTo base names (.obj schema) := by
  cases h with
  | type type => exact refersTo_flat (by simp [typeSchema, Value.kind])
  | format format => exact refersTo_flat (by simp [formatSchema, Value.kind])
  | texts => exact refersTo_nested _ (by decide) (refersTo_flat (by simp [typeSchema, Value.kind]))

/-- Null can be allowed. -/
theorem RefersTo.nullable {entries : Fragment} (h : RefersTo base names (.obj entries)) :
    RefersTo base names (.obj (Table.insert entries "nullable" (.bool true))) := by
  intro s hs
  rcases mem_referenceTexts_obj.1 hs with hself | ⟨e, he, hin⟩
  · rw [Table.get?_insert_of_ne _ _ (by decide)] at hself
    exact h s (mem_referenceTexts_obj.2 (.inl hself))
  · rcases Table.mem_insert he with rfl | hold
    · simp [referenceTexts, mentions] at hin
    · exact h s (mem_referenceTexts_obj.2 (.inr ⟨e, hold, hin⟩))

end

/-! ### Expressions -/

/-- Every reference in the schema is in the log. -/
def Tells (base : String) (x : Logged Fragment) : Prop :=
  RefersTo base (x.run {}).2.references (.obj (x.run {}).1)

section

variable {base : String}

theorem tells_pure {schema : Fragment} (h : RefersTo base [] (.obj schema)) :
    Tells base (pure schema) := h

theorem tells_unknownSchema : Tells base (pure unknownSchema) :=
  tells_pure (Suggested.type "object").refersTo

theorem tells_refer (name : String) : Tells base (refer base name) :=
  refersTo_refTo (List.mem_singleton.2 rfl)

/-- A literal is an example of its type, and no object. -/
theorem tells_example (type : String) {v : Value} (hobj : v.kind ≠ .obj) (harr : v.kind ≠ .arr) :
    Tells base (pure [("type", .str type), ("example", v)]) := by
  refine tells_pure (refersTo_flat fun e he => ?_)
  rcases List.mem_cons.1 he with rfl | he
  · simp [Value.kind]
  · obtain rfl := List.mem_singleton.1 he
    exact ⟨by simp, hobj, harr⟩

/-- What names suggest refers to nothing, and neither does what stands for a fault. -/
theorem tells_suggested (kind operation : String) (name : Value) {suggest : String → Fragment}
    (h : ∀ s, Suggested (suggest s)) :
    Tells base (orUnknown kind ((requireText operation name).map suggest)) := by
  cases name with
  | str s => exact tells_pure (h s).refersTo
  | _ => exact (Suggested.type "object").refersTo

theorem tells_creationSchema (className : Value) : Tells base (creationSchema base className) := by
  unfold creationSchema
  split
  · exact (Suggested.type "object").refersTo
  · split
    · exact tells_refer _
    · exact tells_unknownSchema

theorem tells_staticCallSchema (className method : Value) :
    Tells base (staticCallSchema base className method) := by
  unfold staticCallSchema
  split
  · exact (Suggested.type "object").refersTo
  · dsimp only
    split
    · exact refersTo_nested _ (by decide) (tells_refer _)
    · split
      · exact tells_refer _
      · exact tells_unknownSchema

mutual

theorem tells_value : (node : Node) → node.isTyped = true → Tells base (value base node)
  | .string v, h => by
      have hkind : v.kind = .str := by simpa [Node.isTyped] using h
      exact tells_example "string" (by simp [hkind]) (by simp [hkind])
  | .int v, h => by
      have hkind : v.kind ∈ [Value.Kind.int, .bool] := by
        simpa only [Node.isTyped, decide_eq_true_eq] using h
      refine tells_example "integer" (fun heq => ?_) fun heq => ?_ <;> simp [heq] at hkind
  | .float v, h => by
      have hkind : v.kind ∈ [Value.Kind.float, .int, .bool] := by
        simpa only [Node.isTyped, decide_eq_true_eq] using h
      refine tells_example "number" (fun heq => ?_) fun heq => ?_ <;> simp [heq] at hkind
  | .bool _, _ => tells_pure (Suggested.type "boolean").refersTo
  | .null, _ => tells_pure (refersTo_flat (by simp [Value.kind]))
  | .array _, _ => tells_pure Suggested.texts.refersTo
  | .variable _, _ | .functionCall .., _ | .constant .., _ | .unknown _, _ => tells_unknownSchema
  | .property _ name, _ => tells_suggested _ _ name suggested_schemaOfProperty
  | .call _ method arguments, h => by
      simp only [Node.isTyped, Bool.and_eq_true] at h
      rw [value]
      split
      · exact (Suggested.type "object").refersTo
      · exact tells_argument method _ arguments h.2
      · exact tells_suggested _ _ method suggested_schemaOfMethod
  | .conditional _ (some node) _, h => by
      simp only [Node.isTyped, isTyped?, Bool.and_eq_true] at h
      exact tells_value node h.1.2
  | .conditional _ none (some node), h => by
      simp only [Node.isTyped, isTyped?, Bool.and_eq_true] at h
      exact tells_value node h.2
  | .conditional _ none none, _ => tells_unknownSchema
  | .coalesce left _, h => by
      simp only [Node.isTyped, Bool.and_eq_true] at h
      exact (tells_value left h.1).nullable
  | .create className _, _ => tells_creationSchema className
  | .staticCall className method _, _ => tells_staticCallSchema className method

theorem tells_argument (method : Value) : (position : Nat) → (arguments : List Node) →
    areTyped arguments = true → Tells base (argument base method position arguments)
  | _, [], _ => by
      rw [argument]
      exact tells_suggested _ _ method suggested_schemaOfMethod
  | 0, node :: _, h => tells_value node (Bool.and_eq_true_iff.1 h).1
  | position + 1, _ :: rest, h => tells_argument method position rest (Bool.and_eq_true_iff.1 h).2

end

/-! ### Arrays and trees -/

theorem isTyped_of_mem_described {items : List Item} (h : areTypedItems items = true)
    {p : String × Node} (hp : p ∈ described items) : p.2.isTyped = true := by
  obtain ⟨item, hitem, hproperty⟩ := List.mem_filterMap.1 hp
  rw [snd_of_property? hproperty]
  exact isTyped_of_mem_items h hitem

theorem references_noted {properties : List (String × Node)} {p : String × Node}
    (hp : p ∈ properties) : (p.2.noted base).references ⊆ (noted base properties).references := by
  induction properties with
  | nil => simp at hp
  | cons first rest ih =>
      rw [noted, Log.references_append]
      rcases List.mem_cons.1 hp with rfl | hrest
      · exact List.subset_append_left _ _
      · exact List.subset_append_of_subset_right _ (ih hrest)

/-- Whatever its keys are, the properties of an object refer to what their values refer to. -/
theorem refersTo_written {properties : List (String × Node)}
    (h : ∀ p ∈ properties, p.2.isTyped = true) :
    RefersTo base (noted base properties).references
      (.obj (Table.ofEntries (written base properties))) := by
  have hentry : ∀ e ∈ Table.ofEntries (written base properties),
      ∃ p ∈ properties, e.2 = .obj (p.2.description base) := by
    intro e he
    have hget := Table.get?_of_mem (Table.nodup_keys_ofEntries _) he
    rcases Table.mem_of_get?_insertAll hget with hwritten | hnone
    · obtain ⟨p, hp, heq⟩ := List.mem_map.1 hwritten
      exact ⟨p, hp, congrArg Prod.snd heq.symm⟩
    · simp at hnone
  refine refersTo_obj (fun s hs => ?_) fun e he => ?_
  · -- the property of this name is a schema and no text
    obtain ⟨p, _, heq⟩ := hentry _ (Table.mem_of_get? hs)
    simp at heq
  · obtain ⟨p, hp, heq⟩ := hentry e he
    rw [heq]
    exact RefersTo.mono (tells_value p.2 (h p hp)) (references_noted hp)

/-- Whether the expressions of a tree are well-typed, and its class of items is a text if it has
one. -/
def Tree.isTyped (tree : Tree) : Bool :=
  areTyped tree.returns && tree.collects.kind ∈ [Value.Kind.null, .str]

/-- The first array of well-typed expressions is described without a fault. -/
theorem run_firstArray {nodes : List Node} (h : areTyped nodes = true) :
    ∃ schema log, (firstArray base nodes).run.run {} = (.ok schema, log) ∧
      RefersTo base log.references (.obj schema) := by
  induction nodes with
  | nil => exact ⟨_, _, rfl, (Suggested.type "object").refersTo⟩
  | cons node rest ih =>
      obtain ⟨hnode, hrest⟩ := Bool.and_eq_true_iff.1 h
      cases node with
      | array items =>
          refine ⟨_, _, run_objectOfArray base hnode {}, refersTo_nested _ (by decide) ?_⟩
          exact refersTo_written fun p hp =>
            isTyped_of_mem_described (areTypedItems_flatten hnode) hp
      | _ => exact ih hrest

theorem tells_infer {tree : Tree} (h : tree.isTyped = true) : Tells base (infer base tree) := by
  obtain ⟨hreturns, hcollects⟩ := Bool.and_eq_true_iff.1 h
  obtain ⟨schema, log, hrun, hrefers⟩ : ∃ schema log,
      (attempt base tree).run.run {} = (.ok schema, log) ∧
        RefersTo base log.references (.obj schema) := by
    unfold attempt
    split
    · rename_i htruthy
      cases hname : tree.collects with
      | str name => exact ⟨_, _, rfl, tells_refer (ClassName.base name)⟩
      | null => simp [hname, Value.isTruthy] at htruthy
      | _ => simp [hname, Value.kind] at hcollects
    · exact run_firstArray hreturns
  have hinfer : (infer base tree).run {} = (schema, log) := by
    rw [infer, run_bind, hrun]
    rfl
  rw [Tells, hinfer]
  exact hrefers

end

/-! ### An inferencer in use -/

/-- Whether a subject is well-typed. -/
def Subject.isTyped : Subject → Bool
  | .tree t => t.isTyped
  | .value node => isTyped? node

theorem tells_subject {base : String} {subject : Subject} (h : subject.isTyped = true) :
    Tells base (subject.infer base) := by
  cases subject with
  | tree t => exact tells_infer h
  | value node =>
      cases node with
      | some node => exact tells_value node h
      | none => exact tells_unknownSchema

namespace Inferencer

/-- A step with an inferencer: a subject is described, or somebody uses the registry. -/
inductive Step where
  | describe (subject : Subject)
  | use (u : Registry.Use)

/-- Whether a step describes nothing that is ill-typed. -/
def Step.isTyped : Step → Bool
  | .describe subject => subject.isTyped
  | .use _ => true

/-- Somebody uses the registry of an inferencer. -/
def useRegistry (i : Inferencer) (u : Registry.Use) : Inferencer :=
  { i with registry := i.registry.map fun r => r.use u }

/-- The schemas that a list of steps gives, and the inferencer behind them. -/
def session (i : Inferencer) : List Step → List Fragment × Inferencer
  | [] => ([], i)
  | .describe subject :: rest =>
      let (schemas, last) := session (i.describe subject).2 rest
      ((i.describe subject).1 :: schemas, last)
  | .use u :: rest => session (i.useRegistry u) rest

/-- An inferencer is bound to a registry, which has been told every name of the log. -/
structure Bound (base : String) (records : List SchemaRecord) (i : Inferencer) (r : Registry)
    (a : Registry.Account) : Prop where
  registry : i.registry = some r
  accounts : Registry.Accounts base records r a
  told : i.log.references ⊆ a.told

section

variable {base : String} {records : List SchemaRecord} {i : Inferencer} {r : Registry}
  {a : Registry.Account}

theorem Bound.prefixInUse (h : Bound base records i r a) : i.prefixInUse = base := by
  rw [Inferencer.prefixInUse, h.registry]
  exact h.accounts.base_eq

/-- What an inferencer describes depends on nothing but the prefix. -/
theorem describe_eq (h : i.prefixInUse = base) (subject : Subject) :
    i.describe subject = (((subject.infer base).run {}).1, { i with
      registry := i.registry.map fun r =>
        r.noteNames ((subject.infer base).run {}).2.references
      log := i.log ++ ((subject.infer base).run {}).2 }) := by
  subst h
  rfl

/-- **The step.** The names in the log of a subject are told to the registry. -/
theorem Bound.describe (h : Bound base records i r a) (subject : Subject) :
    ∃ r' a', Bound base records (i.describe subject).2 r' a' := by
  rw [describe_eq h.prefixInUse]
  refine ⟨_, _, congrArg (Option.map _) h.registry, h.accounts.noteNames _, ?_⟩
  exact List.append_subset.2 ⟨List.subset_append_of_subset_left _ h.told,
    List.subset_append_right _ _⟩

/-- Another use of the registry does not make it forget a name. -/
theorem Bound.useRegistry (h : Bound base records i r a) (u : Registry.Use) :
    Bound base records (i.useRegistry u) (r.use u) (a.use base records u) where
  registry := congrArg (Option.map _) h.registry
  accounts := h.accounts.use u
  told := by
    refine List.Subset.trans h.told ?_
    cases u with
    | refer | note => exact List.subset_append_left _ _
    | add | build => exact List.Subset.refl _

theorem references_session (i : Inferencer) (steps : List Step) :
    i.log.references ⊆ (i.session steps).2.log.references := by
  induction steps generalizing i with
  | nil => exact List.Subset.refl _
  | cons step rest ih =>
      cases step with
      | describe subject => exact List.Subset.trans (List.subset_append_left _ _) (ih (i.describe subject).2)
      | use u => exact ih (i.useRegistry u)

/-- A schema refers to names that are in the log from then on. -/
theorem refersTo_describe (h : i.prefixInUse = base) {subject : Subject}
    (hsubject : subject.isTyped = true) :
    RefersTo base (i.describe subject).2.log.references (.obj (i.describe subject).1) := by
  rw [describe_eq h]
  exact RefersTo.mono (tells_subject hsubject) (List.subset_append_right _ _)

/-- An inferencer without a registry goes along with another one. -/
structure Unbound (base : String) (i free : Inferencer) : Prop where
  registry : free.registry = none
  base_eq : free.base = base
  log : free.log = i.log

theorem Unbound.prefixInUse {free : Inferencer} (h : Unbound base i free) :
    free.prefixInUse = base := by
  rw [Inferencer.prefixInUse, h.registry]
  exact h.base_eq

theorem Unbound.describe {free : Inferencer} (h : Unbound base i free)
    (hi : i.prefixInUse = base) (subject : Subject) :
    (free.describe subject).1 = (i.describe subject).1 ∧
      Unbound base (i.describe subject).2 (free.describe subject).2 := by
  rw [describe_eq hi, describe_eq h.prefixInUse]
  exact ⟨rfl, congrArg (Option.map _) h.registry, h.base_eq, congrArg (· ++ _) h.log⟩

theorem Unbound.useRegistry {free : Inferencer} (h : Unbound base i free) (u : Registry.Use) :
    Unbound base (i.useRegistry u) (free.useRegistry u) :=
  ⟨congrArg (Option.map _) h.registry, h.base_eq, h.log⟩

/-- **The run.** Whatever is done, the inferencer stays bound, its schemas refer to names of its log,
and an inferencer without a registry gives the same schemas. -/
theorem Bound.session (h : Bound base records i r a) {free : Inferencer}
    (hfree : Unbound base i free) {steps : List Step}
    (hsteps : ∀ step ∈ steps, step.isTyped = true) :
    (∃ r' a', Bound base records (i.session steps).2 r' a') ∧
      (∀ schema ∈ (i.session steps).1,
        RefersTo base (i.session steps).2.log.references (.obj schema)) ∧
      (free.session steps).1 = (i.session steps).1 ∧
      (free.session steps).2.log = (i.session steps).2.log := by
  induction steps generalizing i r a free with
  | nil => exact ⟨⟨r, a, h⟩, by simp [Inferencer.session], rfl, hfree.log⟩
  | cons step rest ih =>
      have hrest := fun step hstep => hsteps step (List.mem_cons_of_mem _ hstep)
      cases step with
      | describe subject =>
          obtain ⟨r', a', hnext⟩ := h.describe subject
          obtain ⟨hsame, htwin⟩ := hfree.describe h.prefixInUse subject
          obtain ⟨hbound, hrefers, hschemas, hlog⟩ := ih hnext htwin hrest
          have hsubject := refersTo_describe h.prefixInUse (hsteps _ List.mem_cons_self)
          refine ⟨hbound, fun schema hschema => ?_, ?_, hlog⟩
          · rcases List.mem_cons.1 hschema with rfl | hlater
            · exact hsubject.mono (references_session _ rest)
            · exact hrefers schema hlater
          · exact congrArg₂ List.cons hsame hschemas
      | use u => exact ih (h.useRegistry u) (hfree.useRegistry u) hrest

/-- A name that was told has a schema in the completed registry. -/
theorem Bound.build (h : Bound base records i r a) :
    ∃ r', r.build = (r', none) ∧ ∀ name ∈ i.log.references, r'.has name = true := by
  obtain ⟨r', hbuild, hr', _⟩ := h.accounts.build
  refine ⟨r', hbuild, fun name hname => ?_⟩
  exact (Registry.build_spec hbuild).2 name (hr'.mem_wanted.2 (.inl (h.told hname)))

end

/-- **Inferred references always resolve.** An inferencer is bound to a registry with any prefix and
any stored records, and describes any well-typed subjects, while the registry is used otherwise and
completed at any time. Then the registry can be completed, every text under a `$ref` in a schema that
was given is a reference to a name of the log, and that name has a schema in the completed registry;
without a registry the same schemas are given. -/
theorem references_resolve (base own : String) (records : List SchemaRecord) {steps : List Step}
    (h : ∀ step ∈ steps, step.isTyped = true) :
    let registry : Registry := { base, external := records }
    let bound := ({ registry := some registry, base := own } : Inferencer).session steps
    let free := ({ base } : Inferencer).session steps
    (∃ r r', bound.2.registry = some r ∧ r.build = (r', none) ∧
      ∀ schema ∈ bound.1, ∀ s ∈ referenceTexts (.obj schema),
        ∃ name ∈ bound.2.log.references, s = base ++ name ∧ r'.has name = true) ∧
    free.1 = bound.1 ∧ free.2.log = bound.2.log := by
  intro registry bound free
  have hstart : Bound base records { registry := some registry, base := own } registry {} :=
    ⟨rfl, Registry.accounts_start, List.Subset.refl _⟩
  have hfree : Unbound base { registry := some registry, base := own } { base } := ⟨rfl, rfl, rfl⟩
  obtain ⟨⟨r, a, hbound⟩, hrefers, hschemas, hlog⟩ := hstart.session hfree h
  obtain ⟨r', hbuild, hhas⟩ := hbound.build
  refine ⟨⟨r, r', hbound.registry, hbuild, fun schema hschema s hs => ?_⟩, hschemas, hlog⟩
  obtain ⟨name, hname, heq⟩ := hrefers schema hschema s hs
  exact ⟨name, hname, heq, hhas name hname⟩

/-- A post is described, a schema is added for comments, and a list of comments is described. -/
def blogSteps : List Step :=
  [.describe (.value (some (.create (.str "App\\Http\\Resources\\PostResource") []))),
    .use (.add "CommentResource" (typeSchema "object")),
    .describe (.tree { returns := [.array
      [(.coalesce (.staticCall (.str "CommentResource") (.str "collection") []) .null,
        some (.string (.str "$ref")), false)]] })]

theorem references_resolve_blog :
    (∀ step ∈ blogSteps, step.isTyped = true) ∧
    ∃ r r', (({ registry := some {} } : Inferencer).session blogSteps).2.registry = some r ∧
      r.build = (r', none) ∧
      (∃ name, componentPrefix ++ "PostResource" = componentPrefix ++ name ∧ r'.has name = true) ∧
      ∃ name, componentPrefix ++ "CommentResource" = componentPrefix ++ name ∧
        r'.has name = true := by
  have htyped : ∀ step ∈ blogSteps, step.isTyped = true := by decide
  obtain ⟨⟨r, r', hregistry, hbuild, hresolved⟩, _, _⟩ :=
    references_resolve componentPrefix componentPrefix [] htyped
  have hschemas : (({ registry := some {} } : Inferencer).session blogSteps).1 =
      [refTo componentPrefix "PostResource",
        [("type", .str "object"), ("properties", .obj [("$ref", .obj [("type", .str "array"),
          ("items", .obj (refTo componentPrefix "CommentResource")),
          ("nullable", .bool true)])])]] := by decide
  refine ⟨htyped, r, r', hregistry, hbuild, ?_, ?_⟩
  · obtain ⟨name, _, heq, hhas⟩ := hresolved (refTo componentPrefix "PostResource")
      (by rw [hschemas]; simp) _ (mem_referenceTexts_obj.2 (.inl rfl))
    exact ⟨name, heq, hhas⟩
  · obtain ⟨name, _, heq, hhas⟩ := hresolved _
      (by rw [hschemas]; exact List.mem_cons_of_mem _ List.mem_cons_self)
      (componentPrefix ++ "CommentResource") (by decide)
    exact ⟨name, heq, hhas⟩

end Inferencer

end RouteDoc.Shape
