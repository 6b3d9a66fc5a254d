import RouteDoc.Proofs.Document.Run
import RouteDoc.Proofs.Schema.Tracking
/-!
# RouteDoc.Proofs.Document.References

**Which references of a document may dangle.** While routes are added the registry is told every
reference of their operations, so a name that is referred to has a component at the end. What it is
not told are the names in `untracked`: those below a `$ref` that is no text, those in the security
schemes, and those in the example that a stored record gave to a component that was there already
(`backfilled`). A record that is a component of its own is told.

`build_references_iff` says that every other name leads somewhere, so that those in `untracked`
decide whether all do. `Noted` is the invariant of a draft: its registry is sound, and knows what its
paths refer to.
-/

namespace RouteDoc

open Schema

variable {filled : List SchemaRecord}

/-! ### One operation -/

theorem Assembly.grows_registerShape (registry : Registry) (d : Detection) (shape : ResponseShape) :
    Registry.Grows filled registry (Assembly.registerShape registry d shape) := by
  have hfirst : Registry.Grows filled registry
      (if !registry.has shape.name || shape.schema ≠ [("type", .str "object")] then
        registry.add shape.name (.obj shape.schema)
      else registry) := by
    split
    · exact Registry.grows_add _ _ _
    · exact Registry.Grows.refl _
  refine hfirst.trans (Registry.Grows.foldl (fun r e => ?_) _ _)
  split
  · exact Registry.Grows.refl _
  · exact Registry.grows_add _ _ _

theorem Assembly.grows_successSchema (registry : Registry) (d : Detection) :
    Registry.Grows filled registry (Assembly.successSchema registry d).2 := by
  unfold Assembly.successSchema
  split
  · exact Registry.Grows.refl _
  · exact (Assembly.grows_registerShape ..).trans (Registry.grows_refer _ _)

theorem Assembler.grows_assemble {config : GeneratorConfig} {a a' : Assembler} {r : Route}
    {d : Detection} {record : Option OverrideRecord} {o : Operation}
    (h : Assembler.assemble config a r d record = (.ok o, a')) :
    Registry.Grows filled a.registry a'.registry := by
  unfold Assembler.assemble at h
  dsimp only at h
  split at h
  · simp at h
  · obtain ⟨_, rfl⟩ := Prod.mk.inj h
    refine Registry.Grows.trans ?_ (Assembly.grows_successSchema _ _)
    split
    · exact Registry.grows_note _ _
    · exact Registry.Grows.refl _

namespace Document

/-! ### One draft -/

/-- The paths of a draft as they stand in the document. -/
def pathsValue (draft : Draft) : Value := .obj (Table.mapValues .obj draft.paths)

/-- The registry of a draft knows the references of its paths. -/
structure Noted (filled : List SchemaRecord) (snapshot : OverrideSnapshot) (draft : Draft) :
    Prop where
  /-- It is sound. -/
  sound : draft.assembler.registry.Sound filled
  /-- Its stored records are those of the snapshot. -/
  external : draft.assembler.registry.external = snapshot.schemas
  /-- What the paths refer to was noted. -/
  paths : ∀ n ∈ references componentPrefix (pathsValue draft),
    n ∈ draft.assembler.registry.referenced

theorem noted_start (snapshot : OverrideSnapshot) (visible : List Entry) :
    Noted filled snapshot (start snapshot visible) where
  sound := Registry.sound_empty _ _
  external := rfl
  paths := by simp [pathsValue, start, Table.mapValues, references, ownReference, entryReferences]

/-- The operations of a path refer to what its entry among the paths refers to. -/
theorem mem_references_paths {draft : Draft} {path n : String} (hpath : path ≠ "$ref")
    (hn : n ∈ references componentPrefix (.obj ((Table.get? draft.paths path).getD []))) :
    n ∈ references componentPrefix (pathsValue draft) := by
  cases hget : Table.get? draft.paths path with
  | none => simp [hget, references, ownReference, entryReferences] at hn
  | some methods =>
      rw [hget, Option.getD_some] at hn
      refine @mem_references_of_get? _ _ path _ _ ?_ hpath hn
      rw [Table.get?_mapValues, hget]
      rfl

/-- An added operation brings only references that are noted with it. -/
theorem mem_references_addOperation {draft : Draft} {o : Operation} {a : Assembler} {n : String}
    (hn : n ∈ references componentPrefix (pathsValue (addOperation draft o a))) :
    n ∈ references componentPrefix (pathsValue draft) ∨
      n ∈ references componentPrefix (.obj o.toFragment) := by
  unfold pathsValue addOperation at hn
  dsimp only at hn
  rw [Table.mapValues_insert] at hn
  -- it is written below its method, and the methods below the path
  rcases mem_references_insert (fun _ s h => by simp at h) hn with hold | ⟨hpath, hmethods⟩
  · exact .inl hold
  · rcases mem_references_insert (fun _ s h => by simp at h) hmethods with hold | ⟨_, hnew⟩
    · exact .inl (mem_references_paths hpath hold)
    · exact .inr hnew

/-- **The step**: a route that is added leaves the draft noted. -/
theorem Noted.addRoute {snapshot : OverrideSnapshot} {config : GeneratorConfig}
    {draft draft' : Draft} {r : Route} {record : Option OverrideRecord}
    {analysis : Except String Detection} {o : Operation} (h : Noted filled snapshot draft)
    (hadd : addRoute config draft r record analysis = .ok (o, draft')) :
    Noted filled snapshot draft' := by
  obtain ⟨d, assembler, _, hassemble, rfl⟩ := addRoute_ok hadd
  have hgrows : Registry.Grows filled draft.assembler.registry assembler.registry :=
    Assembler.grows_assemble hassemble
  have hnote : Registry.Grows filled assembler.registry _ :=
    Registry.grows_note assembler.registry (.obj o.toFragment)
  have hsound := hgrows.sound h.sound
  refine ⟨hnote.sound hsound, hgrows.external.trans h.external, fun n hn => ?_⟩
  rcases mem_references_addOperation hn with hold | hnew
  · refine hnote.referenced n (hgrows.referenced n (h.paths n ?_))
    rwa [pathsValue, paths_noteDiagnostics] at hold
  · exact Registry.mem_referenced_note hsound hnew

theorem Noted.addRoutes {σ : Type} {snapshot : OverrideSnapshot} {config : GeneratorConfig}
    {analyze : Analyzer σ} {draft draft' : Draft} {entries : List Entry} {s : σ}
    (h : Noted filled snapshot draft)
    (hrun : ((addRoutes config analyze draft entries).run s).1 = .ok draft') :
    Noted filled snapshot draft' :=
  addRoutes_induction (fun _ _ _ _ _ hd hadd => hd.addRoute hadd) h hrun

/-! ### The document -/

/-- The value under a key. -/
def part (v : Value) (key : String) : Value :=
  (v.entries?.bind (Table.get? · key)).getD .null

/-- The paths of a document. -/
def paths (doc : Document) : Value := part (.obj doc.content) "paths"

/-- The components of a document. -/
def components (doc : Document) : Value := part (.obj doc.content) "components"

/-- The names of the component schemas of a document. -/
def schemaNames (doc : Document) : List String :=
  ((part doc.components "schemas").entries?.map Table.keys).getD []

/-- The names of component schemas under a `$ref` anywhere in the paths and components. -/
def mentioned (doc : Document) : List String :=
  mentions componentPrefix doc.paths ++ mentions componentPrefix doc.components

/-- The stored records that give their examples to components that are there once all routes are
added. -/
def backfilled {σ : Type} (config : GeneratorConfig) (analyze : Analyzer σ)
    (snapshot : OverrideSnapshot) (routes : List Route) (s : σ) : List SchemaRecord :=
  match ((addRoutes config analyze (start snapshot (visibleRoutes snapshot routes))
      (visibleRoutes snapshot routes)).run s).1 with
  | .ok draft => draft.assembler.registry.backfilled snapshot.schemas
  | .error _ => []

theorem backfilled_eq {σ : Type} {config : GeneratorConfig} {analyze : Analyzer σ}
    {snapshot : OverrideSnapshot} {routes : List Route} {s : σ} {draft : Draft}
    (h : ((addRoutes config analyze (start snapshot (visibleRoutes snapshot routes))
      (visibleRoutes snapshot routes)).run s).1 = .ok draft) :
    backfilled config analyze snapshot routes s =
      draft.assembler.registry.backfilled snapshot.schemas := by
  rw [backfilled, h]

/-- The names in the places that no registry is told of: those below a `$ref` that is no text, those
in the security schemes, and those in the examples of the backfilled records. -/
def untracked (filled : List SchemaRecord) (doc : Document) : List String :=
  hidden componentPrefix doc.paths ++ hidden componentPrefix doc.components ++
    mentions componentPrefix (part doc.components "securitySchemes") ++
    filled.flatMap fun record => mentions componentPrefix record.sample

theorem mem_untracked {doc : Document} {n : String} :
    n ∈ untracked filled doc ↔
      n ∈ hidden componentPrefix doc.paths ∨ n ∈ hidden componentPrefix doc.components ∨
      n ∈ mentions componentPrefix (part doc.components "securitySchemes") ∨
      ∃ record ∈ filled, n ∈ mentions componentPrefix record.sample := by
  simp only [untracked, List.mem_append, List.mem_flatMap, or_assoc]

/-- The components of a document with the given schemas and security schemes. -/
def componentParts (schemas : Fragment) (schemes : Fragment) : Fragment :=
  (if schemas.isEmpty then [] else [("schemas", .obj schemas)]) ++
    [("securitySchemes", .obj schemes)]

/-- Invert the end of a build: the registry is completed, and its schemas are the components. -/
theorem finish_ok {config : GeneratorConfig} {snapshot : OverrideSnapshot} {draft : Draft}
    {doc : Document} (h : finish config snapshot draft = .ok doc) :
    ∃ registry schemes, draft.assembler.registry.build = (registry, none) ∧
      doc.paths = pathsValue draft ∧
      doc.components = .obj (componentParts registry.schemas (Table.mapValues .obj schemes)) := by
  unfold finish at h
  split at h
  · simp at h
  · rename_i registry hbuild
    obtain rfl := Except.ok.inj h
    exact ⟨registry, _, hbuild, rfl, rfl⟩

theorem schemaNames_eq {doc : Document} {schemas schemes : Fragment}
    (h : doc.components = .obj (componentParts schemas schemes)) :
    doc.schemaNames = Table.keys schemas := by
  rw [schemaNames, h]
  cases schemas with
  | nil => rfl
  | cons e rest => rfl

theorem part_schemas {schemas schemes : Fragment} {name : String} {v : Value}
    (h : Table.get? schemas name = some v) :
    part (part (.obj (componentParts schemas schemes)) "schemas") name = v := by
  cases schemas with
  | nil => simp at h
  | cons e rest =>
      have hschemas : part (.obj (componentParts (e :: rest) schemes)) "schemas" =
          .obj (e :: rest) := rfl
      rw [hschemas, part, Value.entries?, Option.bind_some, h]
      rfl

theorem part_securitySchemes (schemas schemes : Fragment) :
    part (.obj (componentParts schemas schemes)) "securitySchemes" = .obj schemes := by
  cases schemas with
  | nil => rfl
  | cons e rest => rfl

theorem mem_mentions_of_part {v : Value} {key n : String}
    (hn : n ∈ mentions componentPrefix (part v key)) : n ∈ mentions componentPrefix v := by
  unfold part at hn
  cases v with
  | obj t =>
      rw [Value.entries?, Option.bind_some] at hn
      cases hget : Table.get? t key with
      | none => simp [hget, mentions] at hn
      | some w =>
          rw [hget] at hn
          exact mem_mentions_of_get? hget hn
  | _ => simp [Value.entries?, mentions] at hn

/-- What an example of a component mentions is mentioned in the components. -/
theorem mem_mentions_of_exampleOf {v sample : Value} {name n : String}
    (h : Registry.exampleOf (part (part v "schemas") name) = some sample)
    (hn : n ∈ mentions componentPrefix sample) : n ∈ mentions componentPrefix v := by
  have hexample : part (part (part v "schemas") name) "example" = sample := by
    rw [part, ← Registry.exampleOf, h, Option.getD_some]
  exact mem_mentions_of_part (mem_mentions_of_part (mem_mentions_of_part (hexample ▸ hn)))

/-- What is not tracked is mentioned all the same. -/
theorem mem_mentioned_of_untracked {doc : Document} {n : String}
    (hfilled : ∀ record ∈ filled, Registry.exampleOf
      (part (part doc.components "schemas") record.name) = some record.sample)
    (hn : n ∈ untracked filled doc) : n ∈ doc.mentioned := by
  rw [mentioned, List.mem_append]
  rcases mem_untracked.1 hn with hpaths | hcomponents | hschemes | ⟨record, hrecord, hsample⟩
  · exact .inl (mem_mentions_iff _ |>.2 (.inr hpaths))
  · exact .inr (mem_mentions_iff _ |>.2 (.inr hcomponents))
  · exact .inr (mem_mentions_of_part hschemes)
  · exact .inr (mem_mentions_of_exampleOf (hfilled record hrecord) hsample)

/-- What the components refer to is there, in a security scheme, or in an example that a record
gave. -/
theorem has_of_mem_components {registry : Registry} {schemes : Fragment} {doc : Document}
    {n : String} (hs : registry.Sound filled)
    (hall : ∀ n ∈ registry.wanted, registry.has n = true)
    (hdoc : doc.components = .obj (componentParts registry.schemas schemes))
    (hn : n ∈ references componentPrefix doc.components) :
    registry.has n = true ∨ n ∈ untracked filled doc := by
  have hnoref : ∀ s, Table.get? (componentParts registry.schemas schemes) "$ref" ≠
      some (.str s) := by
    intro s
    unfold componentParts
    split <;> simp [Table.get?]
  rw [hdoc, mem_references_obj hnoref] at hn
  obtain ⟨e, he, _, hne⟩ := hn
  unfold componentParts at he
  rcases List.mem_append.1 he with hschemas | hschemes
  · split at hschemas
    · simp at hschemas
    · obtain rfl := List.mem_singleton.1 hschemas
      have hobjects : ∀ s, Table.get? registry.schemas "$ref" ≠ some (.str s) := by
        intro s hget
        obtain ⟨entries, hentries⟩ := hs.objects _ _ hget
        simp at hentries
      obtain ⟨c, hc, _, hnc⟩ := (mem_references_obj hobjects).1 hne
      have hget := Table.get?_of_mem hs.nodup hc
      rcases Registry.has_of_mem_references hs hall hget hnc with hhas | hfilled
      · exact .inl hhas
      · obtain ⟨record, hrecord, _, _, hsample⟩ := hfilled
        exact .inr (mem_untracked.2 (.inr (.inr (.inr
          ⟨record, hrecord, (mem_mentions_iff _).2 (.inl hsample)⟩))))
  · obtain rfl := List.mem_singleton.1 hschemes
    refine .inr (mem_untracked.2 (.inr (.inr (.inl ?_))))
    rw [hdoc, part_securitySchemes]
    exact (mem_mentions_iff _).2 (.inl hne)

/-- What a document mentions is a component, if the registry is told. -/
theorem mem_schemaNames_of_mem_mentioned {snapshot : OverrideSnapshot} {draft : Draft}
    {registry : Registry} {schemes : Fragment} {doc : Document} {n : String}
    (hnoted : Noted filled snapshot draft)
    (hgrows : Registry.Grows filled draft.assembler.registry registry)
    (hall : ∀ n ∈ registry.wanted, registry.has n = true) (hpaths : doc.paths = pathsValue draft)
    (hcomponents : doc.components = .obj (componentParts registry.schemas schemes))
    (hn : n ∈ doc.mentioned) (huntracked : n ∉ untracked filled doc) : n ∈ doc.schemaNames := by
  have hhas : registry.has n = true := by
    rcases List.mem_append.1 hn with hp | hc
    · rcases (mem_mentions_iff _).1 hp with href | hhidden
      · -- the paths refer to it, so it was noted
        rw [hpaths] at href
        have hwanted := hgrows.referenced n (hnoted.paths n href)
        exact hall n (List.mem_append_left _ hwanted)
      · exact absurd (mem_untracked.2 (.inl hhidden)) huntracked
    · rcases (mem_mentions_iff _).1 hc with href | hhidden
      · have hcases := has_of_mem_components (hgrows.sound hnoted.sound) hall hcomponents href
        exact hcases.resolve_right huntracked
      · exact absurd (mem_untracked.2 (.inr (.inl hhidden))) huntracked
  rw [schemaNames_eq hcomponents]
  exact Table.has_iff_mem_keys.1 hhas

/-- **When no reference dangles.** In a document that was built, every name of a component schema
under a `$ref` in the paths and components, at any depth, names a component schema, unless it is in a
place that the registry is not told of. So all of them do exactly when those in these places do. -/
theorem build_references_iff {σ : Type} (config : GeneratorConfig) (analyze : Analyzer σ)
    (snapshot : OverrideSnapshot) (routes : List Route) (s : σ) (doc : Document)
    (h : ((build config analyze snapshot routes).run s).1 = .ok doc) :
    (∀ n ∈ doc.mentioned, n ∉ untracked (backfilled config analyze snapshot routes s) doc →
      n ∈ doc.schemaNames) ∧
    ((∀ n ∈ doc.mentioned, n ∈ doc.schemaNames) ↔
      ∀ n ∈ untracked (backfilled config analyze snapshot routes s) doc, n ∈ doc.schemaNames) := by
  obtain ⟨draft, hrun, hfinish⟩ := build_ok h
  obtain ⟨registry, schemes, hbuild, hpaths, hcomponents⟩ := finish_ok hfinish
  have hnoted : Noted (backfilled config analyze snapshot routes s) snapshot draft :=
    (noted_start _ _).addRoutes hrun
  have hfilled : draft.assembler.registry.backfilled draft.assembler.registry.external =
      backfilled config analyze snapshot routes s := by
    rw [hnoted.external, backfilled_eq hrun]
  generalize backfilled config analyze snapshot routes s = filled at hnoted hfilled ⊢
  obtain ⟨hgrows, hall⟩ := Registry.build_spec hbuild
  rw [hfilled] at hgrows
  have hresolved : ∀ n ∈ doc.mentioned, n ∉ untracked filled doc → n ∈ doc.schemaNames :=
    fun _ => mem_schemaNames_of_mem_mentioned hnoted hgrows hall hpaths hcomponents
  have hmentioned : ∀ n ∈ untracked filled doc, n ∈ doc.mentioned := by
    refine fun n hn => mem_mentioned_of_untracked (fun record hrecord => ?_) hn
    obtain ⟨v, hv, hsample⟩ := (hfilled ▸ hnoted.sound).hasExample_build (hfilled ▸ hrecord) hbuild
    rw [hcomponents, part_schemas hv, hsample]
  refine ⟨hresolved, fun hm n hn => hm n (hmentioned n hn), fun hu n hn => ?_⟩
  by_cases huntracked : n ∈ untracked filled doc
  · exact hu n huntracked
  · exact hresolved n hn huntracked

/-- A stored example for users that refers to a schema nobody has. -/
def ghostSnapshot : OverrideSnapshot :=
  { schemas := [{ name := "User", sample := .obj (refTo componentPrefix "Ghost") }] }

/-- An analysis that finds users in every response. -/
def userAnalysis : Analyzer Unit := fun _ =>
  return .ok { responses := [{ name := "User", schema := [("type", .str "object")] }] }

/-- The example completes the component that was detected, and its reference dangles. -/
theorem build_references_stored_example :
    ∃ doc, ((build {} userAnalysis ghostSnapshot [{ method := "GET", path := "/users" }]).run
        ()).1 = .ok doc ∧ ¬ ∀ n ∈ doc.mentioned, n ∈ doc.schemaNames := by
  have hrun : ∃ doc, ((build {} userAnalysis ghostSnapshot
      [{ method := "GET", path := "/users" }]).run ()).1 = .ok doc ∧
      ("Ghost" ∈ untracked (backfilled {} userAnalysis ghostSnapshot
        [{ method := "GET", path := "/users" }] ()) doc ∧ "Ghost" ∉ doc.schemaNames) := by
    decide +kernel
  obtain ⟨doc, hdoc, hghost, hmissing⟩ := hrun
  refine ⟨doc, hdoc, fun hall => hmissing ?_⟩
  exact (build_references_iff _ _ _ _ _ doc hdoc).2.1 hall "Ghost" hghost

end Document

end RouteDoc
