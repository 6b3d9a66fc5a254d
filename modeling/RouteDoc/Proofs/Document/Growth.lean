import RouteDoc.Proofs.Document.Paths
/-!
# RouteDoc.Proofs.Document.Growth

**What a document keeps when routes are added.** Routes that come after others, with keys and places
of their own, and that ask for no identifier (`Addable`), are built on top of what the others leave:
the run over all routes goes through the draft of the first ones (`addRoutes_of_append`). From there
on operations stay where they are, tags are only added, and the registry only grows. So the document
keeps every operation and every tag (`build_append`).

It keeps the names of its component schemas with one exception. A later schema of the same name
replaces a component, with the names it refers to, and a name that only stood there as a placeholder
for the old one is `Forgotten`.
-/

namespace RouteDoc

open Schema

namespace Document

/-! ### Routes that can be added -/

/-- Routes that do not get in the way of others. -/
structure Addable (snapshot : OverrideSnapshot) (routes more : List Route) : Prop where
  /-- No key is one of the others. -/
  key : ∀ m ∈ more, ∀ r ∈ routes, m.key ≠ r.key
  /-- No operation belongs where one of the others stands. -/
  place : ∀ m ∈ more, ∀ r ∈ routes, m.place ≠ r.place
  /-- No record asks for an identifier. -/
  unasked : ∀ m ∈ more, Text.filled? ((snapshot.forRoute m).bind OverrideRecord.operationId) = none

/-- Routes with keys of their own are indexed after the others. -/
theorem visibleRoutes_append {snapshot : OverrideSnapshot} {routes more : List Route}
    (h : ∀ m ∈ more, ∀ r ∈ routes, m.key ≠ r.key) :
    visibleRoutes snapshot (routes ++ more) =
      visibleRoutes snapshot routes ++ visibleRoutes snapshot more := by
  have hdisjoint : ∀ k ∈ Table.keys (more.map fun r => (r.key, r)),
      k ∉ Table.keys (indexRoutes routes) := by
    intro k hk hold
    obtain ⟨e, he, rfl⟩ := List.mem_map.1 hk
    obtain ⟨m, hm, rfl⟩ := List.mem_map.1 he
    obtain ⟨r, hr, heq⟩ := mem_keys_index.1 hold
    exact h m hm r hr heq.symm
  have hindex : indexRoutes (routes ++ more) = indexRoutes routes ++ indexRoutes more := by
    have hall := Table.insertAll_append_of_disjoint [] hdisjoint
    rw [List.append_nil] at hall
    rw [indexRoutes, Table.ofEntries, List.map_append, Table.insertAll_append]
    exact hall
  unfold visibleRoutes Table.values
  rw [hindex, List.map_append, List.map_append, List.filter_append]

theorem requestedIds_eq_nil {snapshot : OverrideSnapshot} {routes : List Route}
    (h : ∀ r ∈ routes,
      Text.filled? ((snapshot.forRoute r).bind OverrideRecord.operationId) = none) :
    requestedIds (visibleRoutes snapshot routes) = [] := by
  refine List.filterMap_eq_nil_iff.2 fun e he => ?_
  obtain ⟨hmem, hrecord⟩ := mem_of_mem_visibleRoutes he
  rw [hrecord]
  exact h e.1 hmem

/-- Routes that ask for no identifier change nothing about the start. -/
theorem start_append {snapshot : OverrideSnapshot} {visible more : List Entry}
    (h : requestedIds more = []) : start snapshot (visible ++ more) = start snapshot visible := by
  have hids : requestedIds (visible ++ more) = requestedIds visible := by
    rw [requestedIds, List.filterMap_append, ← requestedIds, ← requestedIds, h, List.append_nil]
  unfold start
  rw [hids]

section

variable {σ : Type} {config : GeneratorConfig} {analyze : Analyzer σ} {snapshot : OverrideSnapshot}
  {filled : List SchemaRecord}

/-- The run over all routes goes through the draft of the first ones. -/
theorem addRoutes_of_append {routes more : List Route} {s : σ} {draft draft' : Draft}
    (hadd : Addable snapshot routes more)
    (h : ((addRoutes config analyze (start snapshot (visibleRoutes snapshot routes))
      (visibleRoutes snapshot routes)).run s).1 = .ok draft)
    (h' : ((addRoutes config analyze (start snapshot (visibleRoutes snapshot (routes ++ more)))
      (visibleRoutes snapshot (routes ++ more))).run s).1 = .ok draft') :
    ∃ s', ((addRoutes config analyze draft (visibleRoutes snapshot more)).run s').1 =
      .ok draft' := by
  rw [visibleRoutes_append hadd.key, start_append (requestedIds_eq_nil hadd.unasked),
    addRoutes_append] at h'
  cases hrun : (addRoutes config analyze (start snapshot (visibleRoutes snapshot routes))
      (visibleRoutes snapshot routes)).run s with
  | mk result s' =>
      rw [hrun] at h h'
      obtain rfl : result = .ok draft := h
      exact ⟨s', h'⟩

/-! ### Operations -/

/-- What stands at a place stays while no operation is put there. -/
theorem get?_standing_append {done more : List (Entry × Operation)} {place : String × String}
    (h : ∀ x ∈ more, x.1.1.place ≠ place) :
    Table.get? (Table.ofEntries ((done ++ more).map fun x => (x.1.1.place, x))) place =
      Table.get? (Table.ofEntries (done.map fun x => (x.1.1.place, x))) place := by
  rw [List.map_append, Table.ofEntries, Table.insertAll_append]
  refine Table.get?_insertAll_of_not_mem _ fun hmem => ?_
  obtain ⟨e, he, rfl⟩ := List.mem_map.1 hmem
  obtain ⟨x, hx, rfl⟩ := List.mem_map.1 he
  exact h x hx rfl

/-! ### Components -/

/-- The component schema of a name. -/
def schema? (doc : Document) (name : String) : Option Value :=
  (part doc.components "schemas").entries?.bind (Table.get? · name)

theorem schema?_eq {doc : Document} {schemas schemes : Fragment}
    (h : doc.components = .obj (componentParts schemas schemes)) (name : String) :
    doc.schema? name = Table.get? schemas name := by
  rw [schema?, h]
  cases schemas with
  | nil => rfl
  | cons e rest => rfl

/-- One route: the registry grows. -/
theorem grows_addRoute {draft draft' : Draft} {e : Entry} {analysis : Except String Detection}
    {o : Operation} (h : addRoute config draft e.1 e.2 analysis = .ok (o, draft')) :
    Registry.Grows filled draft.assembler.registry draft'.assembler.registry := by
  obtain ⟨d, assembler, _, hassemble, rfl⟩ := addRoute_ok h
  exact (Assembler.grows_assemble hassemble).trans (Registry.grows_note _ _)

theorem grows_addRoutes {draft draft' : Draft} {entries : List Entry} {s : σ}
    (h : ((addRoutes config analyze draft entries).run s).1 = .ok draft') :
    Registry.Grows filled draft.assembler.registry draft'.assembler.registry :=
  addRoutes_induction
    (motive := fun d => Registry.Grows filled draft.assembler.registry d.assembler.registry)
    (fun _ _ _ _ _ hd hadd => hd.trans (grows_addRoute hadd)) (Registry.Grows.refl _) h

/-- A name of a document that is not there any more in another one: it had a placeholder, no
operation refers to it, and the components that do have another content, or do so in an example that
a stored record gave to them. -/
structure Forgotten (filled : List SchemaRecord) (doc doc' : Document) (name : String) : Prop where
  placeholder : doc.schema? name = some (Registry.placeholder name)
  paths : name ∉ references componentPrefix doc.paths
  replaced : ∀ other v, doc.schema? other = some v → name ∈ references componentPrefix v →
    doc'.schema? other ≠ some v ∨ Registry.IsBackfilled filled other v name

/-- Why a name of a registry is missing in a larger one: nothing refers to it any more. -/
theorem forgotten_of_not_mem {draft draft' : Draft} {doc doc' : Document} {name : String}
    (hnoted : Noted filled snapshot draft) (hnoted' : Noted filled snapshot draft')
    (hfilled : filled = draft'.assembler.registry.backfilled snapshot.schemas)
    (hgrows : Registry.Grows filled draft.assembler.registry draft'.assembler.registry)
    (h : finish config snapshot draft = .ok doc) (h' : finish config snapshot draft' = .ok doc')
    (hname : name ∈ doc.schemaNames) (hmissing : name ∉ doc'.schemaNames) :
    Forgotten filled doc doc' name := by
  obtain ⟨registry, schemes, hbuild, hpaths, hcomponents⟩ := finish_ok h
  obtain ⟨registry', schemes', hbuild', _, hcomponents'⟩ := finish_ok h'
  obtain ⟨hdone, hall⟩ := Registry.build_spec hbuild'
  rw [hnoted'.external, ← hfilled] at hdone
  obtain ⟨hexternal, _⟩ := Registry.build_names hbuild'
  have hhas : registry'.has name ≠ true := by
    rw [schemaNames_eq hcomponents'] at hmissing
    exact fun hhas => hmissing (Table.has_iff_mem_keys.1 hhas)
  refine ⟨?_, fun hpath => ?_, fun other v hv hn => ?_⟩
  · rw [schemaNames_eq hcomponents] at hname
    rw [schema?_eq hcomponents]
    rcases (Registry.build_names hbuild).2 name (Table.has_iff_mem_keys.2 hname) with
      hold | ⟨record, hrecord, rfl⟩ | hplaceholder
    · exact absurd (hdone.names _ (hgrows.names _ hold)) hhas
    · rw [← hgrows.external] at hrecord
      exact absurd (hexternal record hrecord) hhas
    · exact hplaceholder
  · -- an operation that refers to it was noted, and stays noted
    rw [hpaths] at hpath
    have hreferenced := hdone.referenced _ (hgrows.referenced _ (hnoted.paths _ hpath))
    exact hhas (hall _ (List.mem_append_left _ hreferenced))
  · by_cases hsame : doc'.schema? other = some v
    · rw [schema?_eq hcomponents'] at hsame
      have hcases := Registry.has_of_mem_references (hdone.sound hnoted'.sound) hall hsame hn
      exact .inr (hcases.resolve_left hhas)
    · exact .inl hsame

/-! ### The document -/

/-- What a document keeps of another one, but for names in examples that records gave. -/
structure Keeps (filled : List SchemaRecord) (doc doc' : Document) : Prop where
  /-- Every operation, as it is. -/
  operations : ∀ e ∈ doc.operations, e ∈ doc'.operations
  /-- Every tag. -/
  tags : ∀ tag ∈ doc.tagNames, tag ∈ doc'.tagNames
  /-- Every name of a component schema that is not forgotten. -/
  schemas : ∀ name ∈ doc.schemaNames, name ∈ doc'.schemaNames ∨ Forgotten filled doc doc' name

end

/-- **Adding routes is conservative.** -/
theorem build_append {σ : Type} (config : GeneratorConfig) (analyze : Analyzer σ)
    (snapshot : OverrideSnapshot) (routes more : List Route) (s : σ) (doc doc' : Document)
    (hadd : Addable snapshot routes more)
    (h : ((build config analyze snapshot routes).run s).1 = .ok doc)
    (h' : ((build config analyze snapshot (routes ++ more)).run s).1 = .ok doc') :
    Keeps (backfilled config analyze snapshot (routes ++ more) s) doc doc' := by
  obtain ⟨draft, hrun, hfinish⟩ := build_ok h
  obtain ⟨draft', hrun', hfinish'⟩ := build_ok h'
  obtain ⟨s', hmore⟩ := addRoutes_of_append hadd hrun hrun'
  have hplaced := (placed_start snapshot (visibleRoutes snapshot routes)).addRoutes hrun
  have hplaced' := hplaced.addRoutes hmore
  rw [List.nil_append] at hplaced hplaced'
  have hfirst := map_fst_assembled hrun
  have hsecond := map_fst_assembled hmore
  generalize assembled config analyze (start snapshot (visibleRoutes snapshot routes))
    (visibleRoutes snapshot routes) s = ops at hplaced hplaced' hfirst
  generalize assembled config analyze draft (visibleRoutes snapshot more) s' = others
    at hplaced' hsecond
  refine ⟨?_, ?_, ?_⟩
  · rintro ⟨place, v⟩ he
    obtain ⟨_, _, _, hpaths, _⟩ := finish_ok hfinish
    obtain ⟨_, _, _, hpaths', _⟩ := finish_ok hfinish'
    rw [hplaced.mem_operations hpaths] at he
    obtain ⟨x, hx, _⟩ := Option.map_eq_some_iff.1 he
    obtain ⟨hlast, rfl⟩ := get?_index.1 hx
    have hapart : ∀ y ∈ others, y.1.1.place ≠ x.1.1.place := by
      intro y hy
      exact hadd.place _ (mem_of_visible hsecond hy).1 _ (mem_of_visible hfirst hlast.mem).1
    rw [hplaced'.mem_operations hpaths', get?_standing_append hapart]
    exact he
  · intro tag htag
    rw [tagNames_finish hfinish, hplaced.tags] at htag
    obtain ⟨x, hx, hxtag⟩ := htag
    rw [tagNames_finish hfinish', hplaced'.tags]
    exact ⟨x, List.mem_append_left _ hx, hxtag⟩
  · intro name hname
    have hnoted : Noted (backfilled config analyze snapshot (routes ++ more) s) snapshot draft :=
      (noted_start _ _).addRoutes hrun
    by_cases hkept : name ∈ doc'.schemaNames
    · exact .inl hkept
    · exact .inr (forgotten_of_not_mem hnoted (hnoted.addRoutes hmore) (backfilled_eq hrun')
        (grows_addRoutes hmore) hfinish hfinish' hname hkept)

/-- Users belong to a team. -/
def userRoutes : List Route :=
  [{ method := "GET", path := "/users", controller := some "UserController",
     action := some "index" }]

/-- People are called users too. -/
def peopleRoutes : List Route :=
  [{ method := "GET", path := "/people", controller := some "PeopleController",
     action := some "index" }]

/-- An analysis that finds a team in users, and none in people. -/
def teamAnalysis : Analyzer Unit := fun r =>
  return .ok { responses := [{
    name := "User"
    schema :=
      if r.path = "/users" then
        [("type", .str "object"),
          ("properties", .obj [("team", .obj (refTo componentPrefix "Team"))])]
      else
        [("type", .str "object"),
          ("properties", .obj [("name", .obj [("type", .str "string")])])] }] }

theorem addable_people : Addable {} userRoutes peopleRoutes :=
  ⟨by decide +kernel, by decide +kernel, by decide +kernel⟩

theorem build_append_people :
    ∃ doc, ((build {} teamAnalysis {} userRoutes).run ()).1 = .ok doc ∧
      ∃ doc', ((build {} teamAnalysis {} (userRoutes ++ peopleRoutes)).run ()).1 = .ok doc' ∧
        Addable {} userRoutes peopleRoutes ∧
          Keeps (backfilled {} teamAnalysis {} (userRoutes ++ peopleRoutes) ()) doc doc' := by
  have hrun : ∃ doc, ((build {} teamAnalysis {} userRoutes).run ()).1 = .ok doc ∧
      ∃ doc', ((build {} teamAnalysis {} (userRoutes ++ peopleRoutes)).run ()).1 = .ok doc' ∧
        doc.operations.length = 1 := by
    decide +kernel
  obtain ⟨doc, hdoc, doc', hdoc', _⟩ := hrun
  exact ⟨doc, hdoc, doc', hdoc', addable_people,
    build_append _ _ _ _ _ _ doc doc' addable_people hdoc hdoc'⟩

/-- The people replace the users, and nothing refers to a team any more. -/
theorem not_all_schemas_people :
    Addable {} userRoutes peopleRoutes ∧
      ∃ doc, ((build {} teamAnalysis {} userRoutes).run ()).1 = .ok doc ∧
        ∃ doc', ((build {} teamAnalysis {} (userRoutes ++ peopleRoutes)).run ()).1 = .ok doc' ∧
          doc.schemaNames = ["User", "Team"] ∧ doc'.schemaNames = ["User"] ∧
            ¬ ∀ name ∈ doc.schemaNames, name ∈ doc'.schemaNames := by
  refine ⟨addable_people, ?_⟩
  decide +kernel

end Document

end RouteDoc
