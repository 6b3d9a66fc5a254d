import Mathlib.Data.List.Nodup
import RouteDoc.Proofs.Document.References
import RouteDoc.Proofs.Store.Diff
/-!
# RouteDoc.Proofs.Document.Paths

**Where operations stand in a document.** The operation of a route is written under the template of
its path and its method in lower case (`Route.place`). Routes with different keys may share a place,
`/users/{id}` and `/users/{id?}` for one, and the last of them stands there (`build_operations`). So
every visible route has an operation of its own, and the tags are those of the operations, exactly
when no two visible routes share a place (`Complete`).

`Placed` is the invariant of a draft: of the operations that were put together, the last of each
place stands in the paths, and the tags are those of all of them.
-/

namespace RouteDoc

open Text

/-- Where the operation of a route stands. -/
def Route.place (r : Route) : String × String := (Path.template r.path, lower r.method)

namespace Table

variable {κ κ' α : Type} [DecidableEq κ]

/-- Writing into a table that stands under a key of another table. -/
theorem get?_insert_below [DecidableEq κ'] (t : Table κ (Table κ' α)) (k j : κ)
    (l i : κ') (v : α) :
    (get? (insert t k (insert ((get? t k).getD []) l v)) j).bind (get? · i) =
      if (k, l) = (j, i) then some v else (get? t j).bind (get? · i) := by
  rw [get?_insert]
  by_cases hk : k = j
  · subst hk
    rw [if_pos rfl, Option.bind_some, get?_insert]
    by_cases hl : l = i
    · rw [if_pos hl, if_pos (by rw [hl])]
    · rw [if_neg hl, if_neg fun h => hl (Prod.mk.inj h).2]
      cases get? t k <;> rfl
  · rw [if_neg hk, if_neg fun h => hk (Prod.mk.inj h).1]

/-! Tables of tables, in one list. -/

/-- The entries of the tables in a table, under two keys. -/
def flatten (t : Table κ (Table κ' α)) : List ((κ × κ') × α) :=
  t.flatMap fun e => e.2.map fun m => ((e.1, m.1), m.2)

theorem mem_flatten [DecidableEq κ'] {t : Table κ (Table κ' α)} (h : (keys t).Nodup)
    (hrows : ∀ k row, get? t k = some row → (keys row).Nodup) {e : (κ × κ') × α} :
    e ∈ flatten t ↔ (get? t e.1.1).bind (get? · e.1.2) = some e.2 := by
  obtain ⟨⟨k, l⟩, v⟩ := e
  rw [flatten, List.mem_flatMap, Option.bind_eq_some_iff]
  constructor
  · rintro ⟨⟨j, row⟩, hj, hmem⟩
    obtain ⟨⟨i, w⟩, hi, heq⟩ := List.mem_map.1 hmem
    obtain ⟨⟨rfl, rfl⟩, rfl⟩ : (j = k ∧ i = l) ∧ w = v := by simpa using heq
    have hget := get?_of_mem h hj
    exact ⟨row, hget, get?_of_mem (hrows _ _ hget) hi⟩
  · rintro ⟨row, hget, hv⟩
    exact ⟨(k, row), mem_of_get? hget, List.mem_map.2 ⟨(l, v), mem_of_get? hv, rfl⟩⟩

theorem nodup_flatten {t : Table κ (Table κ' α)} (h : (keys t).Nodup)
    (hrows : ∀ k row, get? t k = some row → (keys row).Nodup) :
    ((flatten t).map Prod.fst).Nodup := by
  rw [flatten, List.map_flatMap, List.nodup_flatMap]
  constructor
  · intro e he
    rw [List.map_map]
    have hrow : (e.2.map Prod.fst).Nodup := hrows _ _ (get?_of_mem h he)
    have hmap : (e.2.map fun m => (e.1, m.1)) = (e.2.map Prod.fst).map (Prod.mk e.1) := by
      rw [List.map_map]
      rfl
    exact hmap ▸ hrow.map fun _ _ h => (Prod.mk.inj h).2
  · -- entries of different tables differ in the first key
    refine (List.pairwise_map.1 (List.nodup_iff_pairwise_ne.1 h)).imp fun {e d} hne x hx hy => ?_
    simp only [List.map_map, List.mem_map, Function.comp] at hx hy
    obtain ⟨m, _, rfl⟩ := hx
    obtain ⟨n, _, heq⟩ := hy
    exact hne (Prod.mk.inj heq).1.symm

end Table

namespace Document

/-! ### What a document says -/

/-- The operations of a document with their places. -/
def operations (doc : Document) : List ((String × String) × Value) :=
  (doc.paths.entries?.getD []).flatMap fun e =>
    (e.2.entries?.getD []).map fun m => ((e.1, m.1), m.2)

/-- The members of a list in a document. -/
def members : Value → List Value
  | .arr items => items
  | _ => []

/-- The tags that an operation of a document carries. -/
def tagsOf (operation : Value) : List String :=
  (members (part operation "tags")).filterMap Value.str?

/-- The names in the tag list of a document. -/
def tagNames (doc : Document) : List String :=
  (members (part (.obj doc.content) "tags")).filterMap fun tag => (part tag "name").str?

theorem get?_optionalField (key k : String) (v : Option Value) :
    Table.get? (optionalField key v) k = if key = k then v else none := by
  cases v with
  | none => simp [optionalField]
  | some v => simp [optionalField, Table.get?]

/-- The tags of an operation are those that it carries in a document. -/
theorem tagsOf_toFragment (o : Operation) : tagsOf (.obj o.toFragment) = o.tags := by
  have hpart : part (.obj o.toFragment) "tags" =
      (if o.tags.isEmpty then none else some (Value.ofStrings o.tags)).getD .null := by
    simp [part, Value.entries?, Operation.toFragment, Table.get?_append, get?_optionalField,
      Table.get?]
  unfold tagsOf
  rw [hpart]
  cases o.tags with
  | nil => rfl
  | cons tag rest =>
      have hitems : members (Value.ofStrings (tag :: rest)) = (tag :: rest).map Value.str := rfl
      rw [List.isEmpty_cons, if_neg Bool.false_ne_true, Option.getD_some, hitems,
        List.filterMap_map]
      exact List.filterMap_some

/-! ### One operation -/

theorem mem_addNew {old new : List String} {tag : String} :
    tag ∈ addNew old new ↔ tag ∈ old ∨ tag ∈ new := by
  unfold addNew
  induction new generalizing old with
  | nil => simp
  | cons first rest ih =>
      rw [List.foldl_cons, ih, List.mem_cons]
      split
      · rename_i hfirst
        constructor
        · rintro (hold | hrest)
          · exact .inl hold
          · exact .inr (.inr hrest)
        · rintro (hold | rfl | hrest)
          · exact .inl hold
          · exact .inl hfirst
          · exact .inr hrest
      · rw [List.mem_append, List.mem_singleton, or_assoc]

theorem nodup_addNew {old new : List String} (h : old.Nodup) : (addNew old new).Nodup := by
  unfold addNew
  induction new generalizing old with
  | nil => exact h
  | cons first rest ih =>
      rw [List.foldl_cons]
      split
      · exact ih h
      · rename_i hnew
        refine ih (h.append (List.nodup_singleton first) fun tag htag hfirst => hnew ?_)
        exact List.mem_singleton.1 hfirst ▸ htag

/-- What a draft holds of the operations that were put together. -/
structure Placed (done : List (Entry × Operation)) (draft : Draft) : Prop where
  /-- A path is there once. -/
  paths : (Table.keys draft.paths).Nodup
  /-- So is a method of a path. -/
  methods : ∀ path methods, Table.get? draft.paths path = some methods → (Table.keys methods).Nodup
  /-- The last operation of a place stands there. -/
  standing : ∀ place : String × String,
    (Table.get? draft.paths place.1).bind (Table.get? · place.2) =
      (Table.get? (Table.ofEntries (done.map fun x => (x.1.1.place, x))) place).map
        fun x => .obj x.2.toFragment
  /-- A tag is there once. -/
  once : draft.tags.Nodup
  /-- The tags are those of all operations. -/
  tags : ∀ tag, tag ∈ draft.tags ↔ ∃ x ∈ done, tag ∈ x.2.tags

theorem placed_start (snapshot : OverrideSnapshot) (visible : List Entry) :
    Placed [] (start snapshot visible) where
  paths := List.nodup_nil
  methods := by simp [start]
  standing := fun _ => rfl
  once := List.nodup_nil
  tags := by simp [start]

/-- **The step**: an operation takes the place of one that stood there. -/
theorem Placed.addRoute {config : GeneratorConfig} {done : List (Entry × Operation)}
    {draft draft' : Draft} {e : Entry} {analysis : Except String Detection} {o : Operation}
    (h : Placed done draft)
    (hadd : Document.addRoute config draft e.1 e.2 analysis = .ok (o, draft')) :
    Placed (done ++ [(e, o)]) draft' := by
  have hplace : (o.path, o.method) = e.1.place := by
    obtain ⟨_, _, _, _, ho, _⟩ := addRoute_operation hadd
    rw [ho]
    rfl
  obtain ⟨d, assembler, _, _, rfl⟩ := addRoute_ok hadd
  have hpaths : (addOperation (noteDiagnostics draft e.1 d) o assembler).paths =
      Table.insert draft.paths o.path
        (Table.insert ((Table.get? draft.paths o.path).getD []) o.method (.obj o.toFragment)) := by
    rw [← paths_noteDiagnostics draft e.1 d]
    rfl
  have htags : (addOperation (noteDiagnostics draft e.1 d) o assembler).tags =
      addNew draft.tags o.tags := by
    unfold addOperation noteDiagnostics
    split <;> rfl
  refine ⟨?_, fun path methods hget => ?_, fun place => ?_, ?_, fun tag => ?_⟩
  · rw [hpaths]
    exact Table.nodup_keys_insert _ _ h.paths
  · rw [hpaths, Table.get?_insert] at hget
    split at hget
    · obtain rfl := Option.some.inj hget
      refine Table.nodup_keys_insert _ _ ?_
      cases hold : Table.get? draft.paths o.path with
      | none => exact List.nodup_nil
      | some methods => exact h.methods _ _ hold
    · exact h.methods _ _ hget
  · rw [hpaths, Table.get?_insert_below, hplace, List.map_append, List.map_singleton,
      ofEntries_snoc, Table.get?_insert]
    split
    · rfl
    · exact h.standing place
  · rw [htags]
    exact nodup_addNew h.once
  · rw [htags, mem_addNew, h.tags]
    simp only [List.mem_append, List.mem_singleton, or_and_right, exists_or, exists_eq_left]

section

variable {σ : Type} {config : GeneratorConfig} {analyze : Analyzer σ}

/-- **The run.** -/
theorem Placed.addRoutes {done : List (Entry × Operation)} {draft draft' : Draft}
    {entries : List Entry} {s : σ} (h : Placed done draft)
    (hrun : ((Document.addRoutes config analyze draft entries).run s).1 = .ok draft') :
    Placed (done ++ assembled config analyze draft entries s) draft' :=
  assembled_induction (fun _ _ _ _ _ _ hplaced hadd => hplaced.addRoute hadd) done h hrun

end

/-! ### The visible routes -/

/-- A record hides its route. -/
def isHidden (snapshot : OverrideSnapshot) (key : RouteKey) : Bool :=
  ((Table.get? snapshot.routes key).map OverrideRecord.isHidden).getD false

theorem nodup_key_visibleRoutes (snapshot : OverrideSnapshot) (routes : List Route) :
    ((visibleRoutes snapshot routes).map fun e => e.1.key).Nodup := by
  have hsub : ((visibleRoutes snapshot routes).map fun e => e.1.key).Sublist
      ((Table.values (indexRoutes routes)).map Route.key) := by
    have hfilter := (List.filter_sublist (p := fun e : Entry =>
      !(e.2.map OverrideRecord.isHidden).getD false)
      (l := (Table.values (indexRoutes routes)).map fun r => (r, snapshot.forRoute r))).map
        fun e => e.1.key
    rw [List.map_map] at hfilter
    exact hfilter
  refine hsub.nodup ?_
  rw [RouteDiff.map_key_values_indexRoutes]
  exact Table.nodup_keys_ofEntries _

/-- The visible routes are the last ones of the keys that are not hidden. -/
theorem mem_visibleRoutes {snapshot : OverrideSnapshot} {routes : List Route} {e : Entry} :
    e ∈ visibleRoutes snapshot routes ↔
      IsLast Route.key routes e.1 ∧ e.2 = snapshot.forRoute e.1 ∧
        isHidden snapshot e.1.key = false := by
  have hlast : ∀ r, r ∈ Table.values (indexRoutes routes) ↔ IsLast Route.key routes r := by
    intro r
    rw [Table.values, List.mem_map]
    constructor
    · rintro ⟨x, hx, rfl⟩
      exact (mem_index.1 hx).1
    · intro hr
      exact ⟨(r.key, r), mem_index.2 ⟨hr, rfl⟩, rfl⟩
  unfold visibleRoutes
  rw [List.mem_filter, List.mem_map, Bool.not_eq_true']
  constructor
  · rintro ⟨⟨r, hr, rfl⟩, hhidden⟩
    exact ⟨(hlast r).1 hr, rfl, hhidden⟩
  · rintro ⟨hr, hrecord, hhidden⟩
    rw [hrecord]
    exact ⟨⟨e.1, (hlast e.1).2 hr, by rw [← hrecord]⟩, hhidden⟩

theorem mem_of_mem_visibleRoutes {snapshot : OverrideSnapshot} {routes : List Route} {e : Entry}
    (he : e ∈ visibleRoutes snapshot routes) : e.1 ∈ routes ∧ e.2 = snapshot.forRoute e.1 := by
  obtain ⟨hlast, hrecord, _⟩ := mem_visibleRoutes.1 he
  exact ⟨hlast.mem, hrecord⟩

/-- An operation for each visible route is for a route of the inventory and its record. -/
theorem mem_of_visible {snapshot : OverrideSnapshot} {routes : List Route}
    {ops : List (Entry × Operation)} (h : ops.map Prod.fst = visibleRoutes snapshot routes)
    {x : Entry × Operation} (hx : x ∈ ops) : x.1.1 ∈ routes ∧ x.1.2 = snapshot.forRoute x.1.1 :=
  mem_of_mem_visibleRoutes (h ▸ List.mem_map_of_mem hx)

/-! ### The document -/

theorem operations_eq {doc : Document} {draft : Draft} (h : doc.paths = pathsValue draft) :
    doc.operations = Table.flatten draft.paths := by
  unfold operations
  rw [h]
  simp only [pathsValue, Value.entries?, Option.getD_some, Table.mapValues, List.flatMap_map]
  rfl

/-- The operations of a document are the last ones of their places. -/
theorem Placed.mem_operations {done : List (Entry × Operation)} {draft : Draft} {doc : Document}
    (h : Placed done draft) (hpaths : doc.paths = pathsValue draft) {place : String × String}
    {v : Value} : (place, v) ∈ doc.operations ↔
      (Table.get? (Table.ofEntries (done.map fun x => (x.1.1.place, x))) place).map
        (fun x => Value.obj x.2.toFragment) = some v := by
  rw [operations_eq hpaths, Table.mem_flatten h.paths h.methods, h.standing]

theorem names_tags (tags : List String) :
    ((tags.map fun tag => Value.obj
      [("name", .str tag), ("description", .str ("Operations related to " ++ tag))]).filterMap
        fun tag => (part tag "name").str?) = tags := by
  rw [List.filterMap_map]
  exact List.filterMap_some

theorem tagNames_finish {config : GeneratorConfig} {snapshot : OverrideSnapshot} {draft : Draft}
    {doc : Document} (h : finish config snapshot draft = .ok doc) : doc.tagNames = draft.tags := by
  unfold finish at h
  split at h
  · exact nomatch h
  · obtain rfl := Except.ok.inj h
    unfold tagNames part
    dsimp only
    -- no other part of the document is called so
    cases draft.tags with
    | nil => cases SecuritySchemes.defaultName? config.securitySchemes _ <;> rfl
    | cons tag rest =>
        cases SecuritySchemes.defaultName? config.securitySchemes _ <;>
          exact names_tags (tag :: rest)

/-- Every visible route has an operation of its own, there are no others, and the tags are those
that the operations carry. -/
structure Complete (ops : List (Entry × Operation)) (doc : Document) : Prop where
  own : doc.operations.Perm (ops.map fun x => (x.1.1.place, .obj x.2.toFragment))
  tags : ∀ tag, tag ∈ doc.tagNames ↔ ∃ e ∈ doc.operations, tag ∈ tagsOf e.2

/-- What a document shows of the routes that it was built from. -/
structure Shows (snapshot : OverrideSnapshot) (routes : List Route)
    (ops : List (Entry × Operation)) (doc : Document) : Prop where
  /-- Each key is looked at once. -/
  keys : (ops.map fun x => x.1.1.key).Nodup
  /-- An operation is put together for the last route of each key that is not hidden. -/
  each : ∀ e, e ∈ ops.map Prod.fst ↔
    IsLast Route.key routes e.1 ∧ e.2 = snapshot.forRoute e.1 ∧ isHidden snapshot e.1.key = false
  /-- A place is there once. -/
  places : (doc.operations.map Prod.fst).Nodup
  /-- At each place stands the last of the operations that belong there. -/
  standing : ∀ place v, (place, v) ∈ doc.operations ↔
    ∃ x, IsLast (fun x => x.1.1.place) ops x ∧ x.1.1.place = place ∧ v = .obj x.2.toFragment
  /-- A tag is listed once. -/
  once : doc.tagNames.Nodup
  /-- The tags of all operations are listed. -/
  listed : ∀ e ∈ doc.operations, ∀ tag ∈ tagsOf e.2, tag ∈ doc.tagNames
  /-- No tag is listed that is not of an operation that was put together. -/
  known : ∀ tag ∈ doc.tagNames, ∃ x ∈ ops, tag ∈ x.2.tags
  /-- Nothing is lost, and no tag is left over, exactly when no two routes share a place. -/
  complete : Complete ops doc ↔ (ops.map fun x => x.1.1.place).Nodup

section

variable {σ : Type} (config : GeneratorConfig) (analyze : Analyzer σ) (snapshot : OverrideSnapshot)
  (routes : List Route) (s : σ)

/-- **The operations of a document.** Each visible key gets an operation, and each place shows the
last of the operations that belong there. Every operation is there, and no tag without one, exactly
when no two visible routes share a place. -/
theorem build_operations (doc : Document)
    (h : ((build config analyze snapshot routes).run s).1 = .ok doc) :
    Shows snapshot routes
      (assembled config analyze (start snapshot (visibleRoutes snapshot routes))
        (visibleRoutes snapshot routes) s) doc := by
  obtain ⟨draft, hrun, hfinish⟩ := build_ok h
  have hplaced := (placed_start snapshot (visibleRoutes snapshot routes)).addRoutes hrun
  rw [List.nil_append] at hplaced
  have hvisible := map_fst_assembled hrun
  obtain ⟨_, _, _, hpaths, _⟩ := finish_ok hfinish
  have htags := tagNames_finish hfinish
  generalize assembled config analyze (start snapshot (visibleRoutes snapshot routes))
    (visibleRoutes snapshot routes) s = ops at hplaced hvisible
  have hplaces : (doc.operations.map Prod.fst).Nodup := by
    rw [operations_eq hpaths]
    exact Table.nodup_flatten hplaced.paths hplaced.methods
  have hstanding : ∀ place v, (place, v) ∈ doc.operations ↔
      ∃ x, IsLast (fun x => x.1.1.place) ops x ∧ x.1.1.place = place ∧
        v = .obj x.2.toFragment := by
    intro place v
    rw [operations_eq hpaths, Table.mem_flatten hplaced.paths hplaced.methods, hplaced.standing,
      Option.map_eq_some_iff]
    refine exists_congr fun x => ?_
    rw [get?_index, and_assoc]
    exact and_congr_right fun _ => and_congr_right fun _ => eq_comm
  have hlisted : ∀ e ∈ doc.operations, ∀ tag ∈ tagsOf e.2, tag ∈ doc.tagNames := by
    rintro ⟨place, v⟩ he tag htag
    obtain ⟨x, hlast, _, rfl⟩ := (hstanding place v).1 he
    rw [tagsOf_toFragment] at htag
    rw [htags]
    exact (hplaced.tags tag).2 ⟨x, hlast.mem, htag⟩
  have hknown : ∀ tag ∈ doc.tagNames, ∃ x ∈ ops, tag ∈ x.2.tags :=
    fun tag htag => (hplaced.tags tag).1 (htags ▸ htag)
  refine ⟨?_, fun e => hvisible ▸ mem_visibleRoutes, hplaces, hstanding, htags ▸ hplaced.once,
    hlisted, hknown, fun hcomplete => ?_, fun hnodup => ⟨?_, fun tag => ⟨fun htag => ?_, ?_⟩⟩⟩
  · have hkeys := nodup_key_visibleRoutes snapshot routes
    rw [← hvisible, List.map_map] at hkeys
    exact hkeys
  · have hperm := hcomplete.own.map Prod.fst
    rw [List.map_map] at hperm
    exact hperm.nodup_iff.1 hplaces
  · -- both list the same entries, each of them once
    refine (List.perm_ext_iff_of_nodup (List.Nodup.of_map _ hplaces) ?_).2 fun e => ?_
    · refine List.Nodup.of_map Prod.fst ?_
      rw [List.map_map]
      exact hnodup
    · obtain ⟨place, v⟩ := e
      rw [hstanding, List.mem_map]
      refine exists_congr fun x => ?_
      rw [isLast_iff_mem hnodup]
      constructor
      · rintro ⟨hx, rfl, rfl⟩
        exact ⟨hx, rfl⟩
      · rintro ⟨hx, heq⟩
        obtain ⟨rfl, rfl⟩ := Prod.mk.inj heq
        exact ⟨hx, rfl, rfl⟩
  · obtain ⟨x, hx, hxtag⟩ := hknown tag htag
    refine ⟨(x.1.1.place, .obj x.2.toFragment), ?_, ?_⟩
    · exact (hstanding _ _).2 ⟨x, (isLast_iff_mem hnodup).2 hx, rfl, rfl⟩
    · rw [tagsOf_toFragment]
      exact hxtag
  · rintro ⟨e, he, htag⟩
    exact hlisted e he tag htag

end

/-- Two routes that share a place: a list of users, and a member. -/
def sharingRoutes : List Route :=
  [{ method := "GET", path := "/users/{id?}", controller := some "UserController",
     action := some "index" },
   { method := "GET", path := "/users/{id}", controller := some "MemberController",
     action := some "show" }]

theorem build_operations_sharing :
    ∃ doc, ((build {} noAnalysis {} sharingRoutes).run ()).1 = .ok doc ∧
      Shows {} sharingRoutes (assembled {} noAnalysis (start {} (visibleRoutes {} sharingRoutes))
        (visibleRoutes {} sharingRoutes) ()) doc := by
  have hrun : ∃ doc, ((build {} noAnalysis {} sharingRoutes).run ()).1 = .ok doc ∧
      doc.operations.length = 1 := by
    decide +kernel
  obtain ⟨doc, hdoc, _⟩ := hrun
  exact ⟨doc, hdoc, build_operations _ _ _ _ _ doc hdoc⟩

/-- The two keys differ and neither is hidden, but one operation is all there is. -/
theorem not_complete_sharing :
    ∃ doc, ((build {} noAnalysis {} sharingRoutes).run ()).1 = .ok doc ∧
      (visibleRoutes {} sharingRoutes).map (fun e => e.1.key) =
        [("GET", "/users/{id?}"), ("GET", "/users/{id}")] ∧
      doc.operations.map Prod.fst = [("/users/{id}", "get")] ∧
      ¬Complete (assembled {} noAnalysis (start {} (visibleRoutes {} sharingRoutes))
        (visibleRoutes {} sharingRoutes) ()) doc := by
  have hrun : ∃ doc, ((build {} noAnalysis {} sharingRoutes).run ()).1 = .ok doc ∧
      ((visibleRoutes {} sharingRoutes).map (fun e => e.1.key) =
          [("GET", "/users/{id?}"), ("GET", "/users/{id}")] ∧
        doc.operations.map Prod.fst = [("/users/{id}", "get")] ∧
        (assembled {} noAnalysis (start {} (visibleRoutes {} sharingRoutes))
          (visibleRoutes {} sharingRoutes) ()).length = 2) := by
    decide +kernel
  obtain ⟨doc, hdoc, hkeys, hplaces, hcount⟩ := hrun
  refine ⟨doc, hdoc, hkeys, hplaces, fun hcomplete => ?_⟩
  have hlength := hcomplete.own.length_eq
  rw [List.length_map, hcount, ← List.length_map (f := Prod.fst), hplaces] at hlength
  exact absurd hlength (by decide)

end Document

end RouteDoc
