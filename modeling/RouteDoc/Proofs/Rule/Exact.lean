import RouteDoc.Proofs.Rule.Nodes
/-!
# RouteDoc.Proofs.Rule.Exact

**Fields that do not overlap are placed exactly.** Where no field is below another one and no place
is needed both as an object and as an array, the schema of a request is the tree of its fields
(`objectSchema_exact`): each field's schema stands at its path, the nodes above are plain objects and
arrays, and there are no others.

`IsTree` is the invariant: it holds of the empty object and is kept by every field that is put
beside the ones before. A new path leaves an old one at some node; as that node is exactly an object
or exactly an array, nothing on the way is given up (`onWay_eq_nodeAt?`).
-/

namespace RouteDoc.Rule

/-! ### Rule maps without overlaps -/

/-- No field is at or below the place of another one. -/
def Apart (fs : List Field) : Prop :=
  fs.Pairwise fun f g => ¬ f.path <+: g.path ∧ ¬ g.path <+: f.path

/-- No place is left by one field for the items of an array and by another one for a property. -/
def Compatible (fs : List Field) : Prop :=
  ∀ f ∈ fs, ∀ g ∈ fs, ∀ p s t, p ++ [s] <+: f.path → p ++ [t] <+: g.path → s.type = t.type

/-- Two paths go on alike from the place where they part. -/
def partAlike : List Step → List Step → Bool
  | s :: p, t :: q => s.type = t.type && (s ≠ t || partAlike p q)
  | _, _ => true

theorem partAlike_iff (p q : List Step) :
    partAlike p q = true ↔
      ∀ c s t, c ++ [s] <+: p → c ++ [t] <+: q → s.type = t.type := by
  induction p generalizing q with
  | nil => simp [partAlike]
  | cons s p ih =>
      cases q with
      | nil => simp [partAlike]
      | cons t q =>
          simp only [partAlike, Bool.and_eq_true, Bool.or_eq_true, decide_eq_true_eq, ih]
          constructor
          · rintro ⟨hst, hrest⟩ c a b ha hb
            cases c with
            | nil =>
                rw [List.nil_append, List.cons_prefix_cons] at ha hb
                exact ha.1 ▸ hb.1 ▸ hst
            | cons d c =>
                rw [List.cons_append, List.cons_prefix_cons] at ha hb
                rcases hrest with hne | hrest
                · exact absurd (ha.1.symm.trans hb.1) hne
                · exact hrest c a b ha.2 hb.2
          · intro h
            refine ⟨h [] s t (by simp) (by simp), ?_⟩
            by_cases hst : s = t
            · subst hst
              exact .inr fun c a b ha hb =>
                h (s :: c) a b (by simpa using ha) (by simpa using hb)
            · exact .inl hst

instance (fs : List Field) : Decidable (Compatible fs) :=
  decidable_of_iff (∀ f ∈ fs, ∀ g ∈ fs, partAlike f.path g.path = true)
    (by simp only [partAlike_iff, Compatible])

instance (fs : List Field) : Decidable (Apart fs) :=
  inferInstanceAs (Decidable (fs.Pairwise _))

theorem Compatible.of_append {fs gs : List Field} (h : Compatible (fs ++ gs)) : Compatible fs :=
  fun f hf g hg => h f (List.mem_append_left _ hf) g (List.mem_append_left _ hg)

/-! ### Plain nodes -/

/-- A node that is nothing but an object with properties, or an array with items, as a step needs. -/
def IsPlain (s : Step) (node : Fragment) : Prop :=
  match s with
  | .property _ =>
      ∃ properties, node = [("type", .str "object"), ("properties", .obj properties)]
  | .items => ∃ items, node = [("type", .str "array"), ("items", .obj items)]

theorem IsPlain.of_type_eq {s t : Step} {node : Fragment} (h : IsPlain s node)
    (hst : s.type = t.type) : IsPlain t node := by
  cases s with
  | property name =>
      obtain ⟨other, rfl⟩ := Step.exists_property_of_type_eq hst
      exact h
  | items => exact Step.eq_items_of_type_eq hst ▸ h

theorem IsPlain.hasType {s : Step} {node : Fragment} (h : IsPlain s node) :
    hasType node s.type = true := by
  cases s with
  | property name =>
      obtain ⟨properties, rfl⟩ := h
      rfl
  | items =>
      obtain ⟨items, rfl⟩ := h
      rfl

/-- A plain node has no child of the other kind. -/
theorem IsPlain.child?_eq_none {s t : Step} {node : Fragment} (h : IsPlain s node)
    (hst : s.type ≠ t.type) : child? node t = none := by
  cases s with
  | property name =>
      obtain ⟨properties, rfl⟩ := h
      cases t with
      | property other => exact absurd rfl hst
      | items => rfl
  | items =>
      obtain ⟨items, rfl⟩ := h
      cases t with
      | property other => rfl
      | items => exact absurd rfl hst

/-- A place where nothing or a plain node was is left with a plain node. -/
theorem isPlain_put_cons {strict : Bool} {old : Option Fragment} {s : Step}
    (h : ∀ node, old = some node → IsPlain s node) (schema : Fragment) (rest : List Step) :
    IsPlain s (put strict old schema (s :: rest)) := by
  rw [put]
  generalize put s.isItems _ schema rest = below
  cases old with
  | none => cases s <;> exact ⟨_, by simp only [prepare, kept_none]; rfl⟩
  | some node =>
      have hplain := h node rfl
      have hkept : kept strict (some node) s.type = some node := kept_eq_some fun _ => hplain.hasType
      cases s with
      | property name =>
          obtain ⟨properties, rfl⟩ := hplain
          exact ⟨_, by simp only [prepare, Step.type] at hkept ⊢; rw [hkept]; rfl⟩
      | items =>
          obtain ⟨items, rfl⟩ := hplain
          exact ⟨_, by simp only [prepare, Step.type] at hkept ⊢; rw [hkept]; rfl⟩

/-! ### The tree of the fields -/

/-- The schema is the tree of its fields. -/
structure IsTree (fs : List Field) (root : Fragment) : Prop where
  /-- The root is a plain object. -/
  plain : IsPlain (.property "") root
  /-- Each field's schema stands at its path. -/
  leaf : ∀ f ∈ fs, nodeAt? (some root) f.path = some f.schema
  /-- The nodes above a field are plain. -/
  inner : ∀ f ∈ fs, ∀ p s, p ++ [s] <+: f.path →
    ∃ node, nodeAt? (some root) p = some node ∧ IsPlain s node
  /-- There are no other nodes. -/
  covered : ∀ p, p ≠ [] → (nodeAt? (some root) p).isSome = true →
    ∃ f ∈ fs, p <+: f.path ∨ f.path <+: p

theorem isTree_emptyObject : IsTree [] emptyObject where
  plain := ⟨[], rfl⟩
  leaf := by simp
  inner := by simp
  covered := by
    intro p hp h
    rw [nodeAt?_emptyObject hp] at h
    simp at h

/-- A further field that overlaps with none of the others. -/
structure Beside (fs : List Field) (f : Field) : Prop where
  /-- It goes on from common places as they do. -/
  compatible : Compatible (fs ++ [f])
  /-- It is neither above nor below one of them. -/
  apart : ∀ g ∈ fs, ¬ g.path <+: f.path ∧ ¬ f.path <+: g.path
  /-- It starts at a property. -/
  atTop : ∃ name rest, f.path = .property name :: rest

/-- Where it goes on from a place of another field, it takes a step of the same kind. -/
theorem Beside.type_eq {fs : List Field} {f g : Field} (h : Beside fs f) (hg : g ∈ fs)
    {p : List Step} {s t : Step} (hf : p ++ [s] <+: f.path) (hgp : p ++ [t] <+: g.path) :
    s.type = t.type :=
  h.compatible f (by simp) g (by simp [hg]) p s t hf hgp

section Step

variable {fs : List Field} {root : Fragment} {f : Field}

/-- A node that is on the path of a further field is plain, and as that field needs it. -/
theorem IsTree.isPlain_onPath (h : IsTree fs root) (hf : Beside fs f) {p : List Step} {s : Step}
    (hp : p ++ [s] <+: f.path) {node : Fragment} (hnode : nodeAt? (some root) p = some node) :
    IsPlain s node := by
  cases p with
  | nil =>
      obtain ⟨name, rest, hpath⟩ := hf.atTop
      rw [hpath, List.nil_append, List.cons_prefix_cons] at hp
      cases hnode
      exact hp.1 ▸ h.plain
  | cons a p =>
      obtain ⟨g, hg, hcover⟩ := h.covered (a :: p) (by simp) (by rw [hnode]; rfl)
      have hpf : a :: p <+: f.path := (List.prefix_append _ _).trans hp
      rcases hcover with ⟨r, hr⟩ | hgp
      · cases r with
        | nil =>
            rw [List.append_nil] at hr
            exact absurd (hr ▸ hpf) (hf.apart g hg).1
        | cons t r =>
            have ht : (a :: p) ++ [t] <+: g.path := snoc_isPrefix hr.symm
            obtain ⟨node', hnode', hplain⟩ := h.inner g hg _ t ht
            rw [hnode, Option.some.injEq] at hnode'
            exact (hnode' ▸ hplain).of_type_eq (hf.type_eq hg hp ht).symm
      · exact absurd (hgp.trans hpf) (hf.apart g hg).1

/-- Nothing on the path of a further field is given up. -/
theorem IsTree.onWay_eq (h : IsTree fs root) (hf : Beside fs f) {p : List Step}
    (hp : p <+: f.path) : onWay false (some root) p = nodeAt? (some root) p := by
  refine onWay_eq_nodeAt? fun q s r hr => ?_
  have hq : q ++ [s] <+: f.path := by
    rw [hr] at hp
    exact List.IsPrefix.trans ⟨r, by simp⟩ hp
  cases hnode : nodeAt? (some root) q with
  | none => exact kept_none _ _
  | some node => exact kept_eq_some fun _ => (h.isPlain_onPath hf hq hnode).hasType

/-- A further field leaves the nodes that are not on its path as they are. -/
theorem IsTree.nodeAt?_putField (h : IsTree fs root) (hf : Beside fs f) {c r r' : List Step}
    {s t : Step} (hpath : f.path = c ++ s :: r) (hk : s.type = t.type) (hne : s ≠ t) :
    nodeAt? (some (putField root f)) (c ++ t :: r') = nodeAt? (some root) (c ++ t :: r') := by
  have hc : c ++ [s] <+: f.path := snoc_isPrefix hpath
  have hway := h.onWay_eq hf ((List.prefix_append _ _).trans hc)
  rw [putField, hpath, nodeAt?_put_beside _ _ _ _ _ _ hk hne, hway, nodeAt?_append, nodeAt?]
  cases hnode : nodeAt? (some root) c with
  | none => rw [kept_none]
  | some node => rw [kept_eq_some fun _ => (h.isPlain_onPath hf hc hnode).hasType]

/-- The nodes above a further field are plain. -/
theorem IsTree.isPlain_putField (h : IsTree fs root) (hf : Beside fs f) {p : List Step} {s : Step}
    (hp : p ++ [s] <+: f.path) :
    ∃ node, nodeAt? (some (putField root f)) p = some node ∧ IsPlain s node := by
  obtain ⟨r, hr⟩ := hp
  rw [List.append_assoc, List.singleton_append] at hr
  have hc : p ++ [s] <+: f.path := snoc_isPrefix hr.symm
  refine ⟨_, by rw [putField, ← hr, nodeAt?_put], isPlain_put_cons (fun node hnode => ?_) _ _⟩
  rw [h.onWay_eq hf ((List.prefix_append _ _).trans hc)] at hnode
  exact h.isPlain_onPath hf hc hnode

/-- There was nothing at the place of a further field: it would be on the path of another one. -/
theorem IsTree.onWay_path_eq_none (h : IsTree fs root) (hf : Beside fs f) :
    onWay false (some root) f.path = none := by
  rw [h.onWay_eq hf (List.prefix_refl _)]
  cases hnode : nodeAt? (some root) f.path with
  | none => rfl
  | some node =>
      obtain ⟨name, rest, hpath⟩ := hf.atTop
      obtain ⟨g, hg, hcover⟩ := h.covered f.path (by simp [hpath]) (by rw [hnode]; rfl)
      exact (hcover.elim (hf.apart g hg).2 (hf.apart g hg).1).elim

theorem IsTree.leaf_putField (h : IsTree fs root) (hf : Beside fs f) :
    ∀ g ∈ fs ++ [f], nodeAt? (some (putField root f)) g.path = some g.schema := by
  intro g hg
  rcases List.mem_append.1 hg with hg | hg
  · obtain ⟨c, s, t, r, r', hne, hf', hg'⟩ := exists_fork (hf.apart g hg).2 (hf.apart g hg).1
    have hk : s.type = t.type :=
      hf.type_eq hg (snoc_isPrefix hf') (snoc_isPrefix hg')
    rw [hg', h.nodeAt?_putField hf hf' hk hne, ← hg']
    exact h.leaf g hg
  · obtain rfl := (List.mem_singleton.1 hg).symm
    have hend := nodeAt?_put false (some root) f.schema f.path []
    rw [List.append_nil, h.onWay_path_eq_none hf] at hend
    rw [putField, hend, put]
    cases strictAt false f.path <;> rfl

theorem IsTree.inner_putField (h : IsTree fs root) (hf : Beside fs f) :
    ∀ g ∈ fs ++ [f], ∀ p s, p ++ [s] <+: g.path →
      ∃ node, nodeAt? (some (putField root f)) p = some node ∧ IsPlain s node := by
  intro g hg p s hp
  rcases List.mem_append.1 hg with hg | hg
  · by_cases hpf : p <+: f.path
    · -- the place is above both fields
      obtain ⟨r, hr⟩ := hpf
      cases r with
      | nil =>
          rw [List.append_nil] at hr
          exact absurd (hr ▸ (List.prefix_append _ _).trans hp) (hf.apart g hg).2
      | cons t r =>
          have ht : p ++ [t] <+: f.path := snoc_isPrefix hr.symm
          obtain ⟨node, hnode, hplain⟩ := h.isPlain_putField hf ht
          exact ⟨node, hnode, hplain.of_type_eq (hf.type_eq hg ht hp)⟩
    · -- the ways part before, so the node is the old one
      have hfp : ¬ f.path <+: p := fun hfp =>
        (hf.apart g hg).2 (hfp.trans ((List.prefix_append _ _).trans hp))
      obtain ⟨c, a, b, r, r', hne, hf', hp'⟩ := exists_fork hfp hpf
      have hgp : c ++ [b] <+: g.path :=
        (snoc_isPrefix hp').trans ((List.prefix_append _ _).trans hp)
      have hk : a.type = b.type := hf.type_eq hg (snoc_isPrefix hf') hgp
      rw [hp', h.nodeAt?_putField hf hf' hk hne, ← hp']
      exact h.inner g hg p s hp
  · obtain rfl := (List.mem_singleton.1 hg).symm
    exact h.isPlain_putField hf hp

theorem IsTree.covered_putField (h : IsTree fs root) (hf : Beside fs f) :
    ∀ p, p ≠ [] → (nodeAt? (some (putField root f)) p).isSome = true →
      ∃ g ∈ fs ++ [f], p <+: g.path ∨ g.path <+: p := by
  intro p hp hsome
  by_cases hpf : p <+: f.path
  · exact ⟨f, by simp, .inl hpf⟩
  by_cases hfp : f.path <+: p
  · exact ⟨f, by simp, .inr hfp⟩
  obtain ⟨c, s, t, r, r', hne, hf', hp'⟩ := exists_fork hfp hpf
  by_cases hk : s.type = t.type
  · rw [hp', h.nodeAt?_putField hf hf' hk hne, ← hp'] at hsome
    obtain ⟨g, hg, hcover⟩ := h.covered p hp hsome
    exact ⟨g, by simp [hg], hcover⟩
  · -- the node where the ways part is plain and has no child of the other kind
    have hc : c ++ [s] <+: f.path := snoc_isPrefix hf'
    obtain ⟨node, hnode, hplain⟩ := h.isPlain_putField hf hc
    rw [hp', nodeAt?_append, hnode, nodeAt?, Option.bind_some, hplain.child?_eq_none hk,
      nodeAt?_none] at hsome
    simp at hsome

/-- **The step**: a further field beside the others gives the tree of all of them. -/
theorem IsTree.putField (h : IsTree fs root) (hf : Beside fs f) :
    IsTree (fs ++ [f]) (putField root f) where
  plain := by
    obtain ⟨name, rest, hpath⟩ := hf.atTop
    have hroot : [] ++ [.property name] <+: f.path := ⟨rest, hpath.symm⟩
    obtain ⟨node, hnode, hplain⟩ := h.isPlain_putField hf hroot
    cases hnode
    exact hplain
  leaf := h.leaf_putField hf
  inner := h.inner_putField hf
  covered := h.covered_putField hf

end Step

/-- **The run**: fields that are put into the empty object one after the other give their tree. -/
theorem isTree_putFields {fs : List Field} (hapart : Apart fs) (hcompat : Compatible fs)
    (hf : ∀ f ∈ fs, ∃ name rest, f.path = .property name :: rest) :
    IsTree fs (fs.foldl putField emptyObject) := by
  have run : ∀ (later earlier : List Field) (root : Fragment), Apart (earlier ++ later) →
      Compatible (earlier ++ later) → (∀ f ∈ later, ∃ name rest, f.path = .property name :: rest) →
      IsTree earlier root → IsTree (earlier ++ later) (later.foldl putField root) := by
    intro later
    induction later with
    | nil => exact fun earlier root _ _ _ h => by rwa [List.append_nil]
    | cons f later ih =>
        intro earlier root hapart hcompat hf h
        rw [List.append_cons] at hapart hcompat ⊢
        have hbeside : ∀ g ∈ earlier, ¬ g.path <+: f.path ∧ ¬ f.path <+: g.path := fun g hg =>
          (List.pairwise_append.1 (List.pairwise_append.1 hapart).1).2.2 g hg f (by simp)
        exact ih (earlier ++ [f]) _ hapart hcompat (fun g hg => hf g (List.mem_cons_of_mem _ hg))
          (h.putField ⟨hcompat.of_append, hbeside, hf f List.mem_cons_self⟩)
  exact run fs [] _ hapart hcompat hf isTree_emptyObject

/-! ### The schema of a request -/

/-- **Placement is exact.** Where no field overlaps with another one, each field's schema stands at
its path, every node above it is a plain object or array, as the next step needs, and every other
node is part of the schema of a field. -/
theorem objectSchema_exact (rules : RuleMap) (hapart : Apart (fields rules))
    (hcompat : Compatible (fields rules)) :
    (∀ f ∈ fields rules, nodeAt? (some (objectSchema rules).1) f.path = some f.schema) ∧
    (∀ f ∈ fields rules, ∀ p s, p ≠ [] → p ++ [s] <+: f.path →
      ∃ node, nodeAt? (some (objectSchema rules).1) p = some node ∧ IsPlain s node) ∧
    (∀ p, p ≠ [] → (nodeAt? (some (objectSchema rules).1) p).isSome = true →
      ∃ f ∈ fields rules, p <+: f.path ∨ f.path <+: p) := by
  have htree := isTree_putFields hapart hcompat fun f hf => exists_property_of_mem_fields hf
  refine ⟨fun f hf => ?_, fun f hf p s hp hps => ?_, fun p hp hsome => ?_⟩
  · obtain ⟨name, rest, hpath⟩ := exists_property_of_mem_fields hf
    rw [nodeAt?_objectSchema _ (by simp [hpath])]
    exact htree.leaf f hf
  · rw [nodeAt?_objectSchema _ hp]
    exact htree.inner f hf p s hps
  · rw [nodeAt?_objectSchema _ hp] at hsome
    exact htree.covered p hp hsome

/-- Two fields in the objects of one array, and an array beside it. -/
theorem objectSchema_exact_two_in_items :
    let rules : RuleMap :=
      [(.text "a.*.x", .text "integer"), (.text "b", .text "array"), (.text "a.*.y.*", .text "email")]
    nodeAt? (some (objectSchema rules).1) [.property "a", .items, .property "x"] =
        some [("type", .str "integer")] ∧
      ∃ node, nodeAt? (some (objectSchema rules).1) [.property "a", .items] = some node ∧
        IsPlain (.property "x") node := by
  intro rules
  obtain ⟨hleaf, hinner, -⟩ := objectSchema_exact rules (by decide) (by decide)
  have hmem : ⟨[.property "a", .items, .property "x"], [("type", .str "integer")]⟩ ∈ fields rules := by
    decide
  exact ⟨hleaf _ hmem, hinner _ hmem [.property "a", .items] (.property "x") (by decide) (by decide)⟩

/-- A path of the schema need not be a prefix of a field, since the schema of a field may have nodes
of its own; and a field without segments has no place, not even the root. -/
theorem objectSchema_beyond_fields :
    let tags : RuleMap := [(.text "tags", .text "array")]
    let unnamed : RuleMap := [(.text "", .text "integer")]
    Apart (fields tags) ∧ Compatible (fields tags) ∧
      (nodeAt? (some (objectSchema tags).1) [.property "tags", .items]).isSome = true ∧
      (∀ f ∈ fields tags, ¬ [.property "tags", .items] <+: f.path) ∧
      steps (segments "") = [] ∧
      nodeAt? (some (objectSchema unnamed).1) [] ≠
        some (mapField (.text "") (.text "integer")).schema := by
  decide

end RouteDoc.Rule
