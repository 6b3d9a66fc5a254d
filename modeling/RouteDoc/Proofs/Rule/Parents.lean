import Mathlib.Data.List.Induction
import RouteDoc.Proofs.Rule.Exact
import RouteDoc.Proofs.Rule.Leaf
/-!
# RouteDoc.Proofs.Rule.Parents

**What the rules of a parent leave of its children.** Fields may be above one another and come in
any order. The node above a field should then have the type that the field needs, and the child
(`Upheld`). A parent of properties is mended when its own rules say another type; a parent of items
is not. So the rule fails, and `upheld_iff` says exactly when.

* `retyped`: the last field that touched a place was the place's own, and was no array.
* `GivesUp`: such a place in the items of an array is started afresh by the next field below it,
  and loses what it had.
* `Kept`: a child was put at a place and not given up since.

`Tracks` is the invariant that ties these to the schema built so far. The histories run backwards:
the latest field is first.
-/

namespace RouteDoc.Rule

/-! ### Parents and what befalls them -/

/-- Some field goes through a place and takes the step there. -/
def GoesOn (fs : List Field) (p : List Step) (s : Step) : Prop := ∃ f ∈ fs, p ++ [s] <+: f.path

/-- Every node above a field has the type that the field needs there, and the child. -/
def Upheld (fs : List Field) (root : Fragment) : Prop :=
  ∀ p s, GoesOn fs p s →
    ∃ node, nodeAt? (some root) p = some node ∧ hasType node s.type = true ∧
      (child? node s).isSome = true

/-- Whether a parent of items was last touched by rules of its own that make no array of it. -/
def retyped : List Field → List Step → Bool
  | [], _ => false
  | f :: earlier, p =>
      if f.path = p then !hasType f.schema "array"
      else if p ++ [.items] <+: f.path then false
      else retyped earlier p

/-- A field starts a node at or above a place afresh: it goes through the items of a place, itself in
the items of an array, that is no array by now. -/
def GivesUp (earlier : List Field) (f : Field) (p : List Step) : Prop :=
  ∃ q, q ++ [.items] <+: p ∧ q ++ [.items] <+: f.path ∧ strictAt false q = true ∧
    retyped earlier q = true

/-- A child was put at a place, by a field below or as the unknown items of an array, and has not
been given up since. -/
def Kept : List Field → List Step → Step → Prop
  | [], _, _ => False
  | f :: earlier, p, s =>
      p ++ [s] <+: f.path ∨
      (f.path = p ∧ s = .items ∧ Table.has f.schema "items" = true) ∨
      (Kept earlier p s ∧ ¬ GivesUp earlier f p)

/-- The fields of a rule map without clashes. -/
structure Regular (fs : List Field) : Prop where
  /-- No place is needed both as an object and as an array. -/
  compatible : Compatible fs
  /-- Every path starts at a property. -/
  atTop : ∀ f ∈ fs, ∃ name rest, f.path = .property name :: rest
  /-- The schemas are those that rules make. -/
  flat : ∀ f ∈ fs, IsFlat f.schema

theorem regular_fields {rules : RuleMap} (h : Compatible (fields rules)) :
    Regular (fields rules) where
  compatible := h
  atTop := fun _ hf => exists_property_of_mem_fields hf
  flat := fun _ hf => isFlat_of_mem_fields hf

theorem Regular.type_eq {fs : List Field} (h : Regular fs) {p : List Step} {s t : Step}
    (hs : GoesOn fs p s) (ht : GoesOn fs p t) : s.type = t.type := by
  obtain ⟨f, hf, hpf⟩ := hs
  obtain ⟨g, hg, hpg⟩ := ht
  exact h.compatible f hf g hg p s t hpf hpg

theorem goesOn_of_eq {fs : List Field} {f : Field} (hf : f ∈ fs) {p rest : List Step} {s : Step}
    (h : f.path = p ++ s :: rest) : GoesOn fs p s :=
  ⟨f, hf, snoc_isPrefix h⟩

/-- A place above a field is gone through, one step after the other. -/
theorem GoesOn.of_append {fs : List Field} {p q : List Step} {s t : Step}
    (h : GoesOn fs (p ++ t :: q) s) : GoesOn fs p t := by
  obtain ⟨f, hf, hp⟩ := h
  refine ⟨f, hf, List.IsPrefix.trans ⟨q ++ [s], ?_⟩ hp⟩
  simp

/-! ### Giving up -/

theorem GivesUp.mono {h : List Field} {f : Field} {p p' : List Step} (hp : p <+: p')
    (hg : GivesUp h f p) : GivesUp h f p' := by
  obtain ⟨q, hq, rest⟩ := hg
  exact ⟨q, hq.trans hp, rest⟩

theorem not_givesUp_nil (h : List Field) (f : Field) : ¬ GivesUp h f [] := by
  rintro ⟨q, hq, -⟩
  simp at hq

/-- On the path of the field, the last step decides when nothing above it does. -/
theorem givesUp_snoc {h : List Field} {f : Field} {p : List Step} {s : Step}
    (hp : p ++ [s] <+: f.path) :
    GivesUp h f (p ++ [s]) ↔
      GivesUp h f p ∨ (s = .items ∧ strictAt false p = true ∧ retyped h p = true) := by
  constructor
  · rintro ⟨q, hq, hrest⟩
    rcases List.prefix_concat_iff.1 hq with heq | hq
    · obtain ⟨rfl, hs⟩ := List.append_inj' heq rfl
      rw [List.cons.injEq] at hs
      exact .inr ⟨hs.1.symm, hrest.2⟩
    · exact .inl ⟨q, hq, hrest⟩
  · rintro (hg | ⟨rfl, hrest⟩)
    · exact hg.mono (List.prefix_append _ _)
    · exact ⟨p, List.prefix_refl _, hp, hrest⟩

/-- Beside the path of the field, the last step makes no difference. -/
theorem givesUp_snoc_beside {h : List Field} {f : Field} {p : List Step} {s : Step}
    (hp : ¬ p ++ [s] <+: f.path) : GivesUp h f (p ++ [s]) ↔ GivesUp h f p := by
  constructor
  · rintro ⟨q, hq, hqf, hrest⟩
    rcases List.prefix_concat_iff.1 hq with heq | hq
    · exact absurd (heq ▸ hqf) hp
    · exact ⟨q, hq, hqf, hrest⟩
  · exact GivesUp.mono (List.prefix_append _ _)

theorem retyped_cons {h : List Field} {f : Field} {p : List Step} (hp : f.path ≠ p)
    (hpf : ¬ p ++ [.items] <+: f.path) : retyped (f :: h) p = retyped h p := by
  rw [retyped, if_neg hp, if_neg hpf]

/-! ### The invariant -/

/-- What is known of a node that fields go through. -/
structure IsNode (h : List Field) (p : List Step) (s : Step) (node : Fragment) : Prop where
  /-- A parent of items has no properties. -/
  properties : s = .items → Table.get? node "properties" = none
  /-- The items of such a parent are a node. -/
  items : s = .items → ∀ v, Table.get? node "items" = some v → ∃ below, v = .obj below
  /-- A parent has the type for its child, unless it is one of items and was retyped. -/
  typed : (child? node s).isSome = true → hasType node s.type = !(s.isItems && retyped h p)

/-- The schema is what a history of fields makes of the empty object, as far as a list of fields is
concerned. -/
structure Tracks (fs h : List Field) (root : Fragment) : Prop where
  /-- The children that are there are those that were kept. -/
  present : ∀ p s, GoesOn fs p s →
    ((nodeAt? (some root) (p ++ [s])).isSome = true ↔ Kept h p s)
  /-- The nodes are as the fields left them. -/
  node : ∀ p s, GoesOn fs p s → ∀ node, nodeAt? (some root) p = some node → IsNode h p s node

theorem IsNode.of_retyped_eq {h h' : List Field} {p : List Step} {s : Step} {node : Fragment}
    (hn : IsNode h p s node) (he : retyped h' p = retyped h p) : IsNode h' p s node :=
  ⟨hn.properties, hn.items, by rw [he]; exact hn.typed⟩

theorem isNode_defaultItems (h : List Field) (p : List Step) (s : Step) :
    IsNode h p s defaultItems := by
  refine ⟨fun _ => rfl, fun _ v hv => ?_, fun hchild => ?_⟩
  · simp [defaultItems, Table.get?] at hv
  · simp [child?_defaultItems] at hchild

theorem tracks_emptyObject {fs : List Field} (hfs : Regular fs) : Tracks fs [] emptyObject where
  present := by
    intro p s _
    rw [nodeAt?_emptyObject (by simp)]
    simp [Kept]
  node := by
    intro p s hs node hnode
    by_cases hp : p = []
    · subst hp
      obtain ⟨f, hf, hpre⟩ := hs
      obtain ⟨name, rest, hpath⟩ := hfs.atTop f hf
      rw [hpath, List.nil_append, List.cons_prefix_cons] at hpre
      cases hnode
      obtain rfl := hpre.1
      exact ⟨by simp, by simp, fun _ => rfl⟩
    · rw [nodeAt?_emptyObject hp] at hnode
      simp at hnode

/-! ### One more field -/

section

variable {fs h : List Field} {root : Fragment} {f : Field}

/-- A tracked node is kept for the next step unless it was retyped. -/
theorem Tracks.bind_kept (ht : Tracks fs h root) {p : List Step} {s : Step} (hs : GoesOn fs p s)
    (strict : Bool) :
    (kept strict (nodeAt? (some root) p) s.type).bind (child? · s) =
      if strict && (s.isItems && retyped h p) then none else nodeAt? (some root) (p ++ [s]) := by
  rw [nodeAt?_snoc]
  cases hnode : nodeAt? (some root) p with
  | none => simp
  | some node =>
      have htyped := (ht.node p s hs node hnode).typed
      cases hchild : child? node s with
      | none =>
          -- without a child there is nothing to lose
          have hnone : (kept strict (some node) s.type).bind (child? · s) = none := by
            rcases kept_eq_none_or strict node s.type with hk | hk
            · rw [hk, Option.bind_none]
            · rw [hk, Option.bind_some, hchild]
          rw [hnone, Option.bind_some, hchild, ite_self]
      | some below =>
          rw [hchild] at htyped
          have htype := htyped rfl
          cases hr : strict && (s.isItems && retyped h p) with
          | true =>
              rw [Bool.and_eq_true] at hr
              rw [hr.2, Bool.not_true] at htype
              rw [hr.1, kept_strict_of_not_hasType htype]
              rfl
          | false =>
              have hkept : kept strict (some node) s.type = some node := by
                refine kept_eq_some fun hstrict => ?_
                rw [hstrict, Bool.true_and] at hr
                rw [htype, hr, Bool.not_false]
              rw [hkept]
              rfl

/-- What is left on the path of a field: all, or nothing below a place that was given up. -/
theorem Tracks.onWay (ht : Tracks fs h root) (hf : f ∈ fs) {p : List Step} (hp : p <+: f.path) :
    (GivesUp h f p → onWay false (some root) p = none) ∧
      (¬ GivesUp h f p → onWay false (some root) p = nodeAt? (some root) p) := by
  -- from the end of the path, since its last step is what may give up a place
  induction p using List.reverseRecOn with
  | nil => exact ⟨fun hg => absurd hg (not_givesUp_nil h f), fun _ => rfl⟩
  | append_singleton p s ih =>
      obtain ⟨ihlost, ihkept⟩ := ih ((List.prefix_append _ _).trans hp)
      have hs : GoesOn fs p s := ⟨f, hf, hp⟩
      rw [givesUp_snoc hp, onWay_snoc]
      by_cases hg : GivesUp h f p
      · rw [ihlost hg, kept_none]
        exact ⟨fun _ => rfl, fun hno => absurd (.inl hg) hno⟩
      · rw [ihkept hg, ht.bind_kept hs]
        constructor
        · rintro (hyes | ⟨rfl, hstrict, hretyped⟩)
          · exact absurd hyes hg
          · rw [hstrict, hretyped]
            rfl
        · intro hno
          refine if_neg fun hall => hno (.inr ?_)
          rw [Bool.and_eq_true, Bool.and_eq_true] at hall
          cases s with
          | property name => simp [Step.isItems] at hall
          | items => exact ⟨rfl, hall.1, hall.2.2⟩

/-- **The frame**: beside the path of a field nodes stay as they are, but for those given up. -/
theorem Tracks.nodeAt?_beside (hfs : Regular fs) (ht : Tracks fs h root) (hf : f ∈ fs)
    {p : List Step} {s : Step} (hs : GoesOn fs p s) (hpf : ¬ p ++ [s] <+: f.path)
    (hfp : ¬ f.path <+: p ++ [s]) :
    (GivesUp h f p → nodeAt? (some (putField root f)) (p ++ [s]) = none) ∧
      (¬ GivesUp h f p →
        nodeAt? (some (putField root f)) (p ++ [s]) = nodeAt? (some root) (p ++ [s])) := by
  obtain ⟨c, a, b, r, r', hne, hf', hp'⟩ := exists_fork hfp hpf
  have ha : GoesOn fs c a := goesOn_of_eq hf hf'
  have hb : GoesOn fs c b := by
    obtain ⟨g, hg, hpre⟩ := hs
    exact ⟨g, hg, (snoc_isPrefix hp').trans hpre⟩
  have htype := hfs.type_eq ha hb
  -- two steps of one kind that differ are properties
  have hproperty : b.isItems = false := by
    cases b with
    | property name => rfl
    | items => exact absurd (Step.eq_items_of_type_eq htype.symm) hne
  have hgiven : GivesUp h f p ↔ GivesUp h f c := by
    rw [← givesUp_snoc_beside hpf, hp']
    constructor
    · rintro ⟨q, hq, hqf, hrest⟩
      exact ⟨q, prefix_of_fork hne (hf' ▸ hqf) hq, hqf, hrest⟩
    · exact GivesUp.mono (List.prefix_append _ _)
  obtain ⟨hlost, hkept⟩ := ht.onWay hf (p := c) ⟨a :: r, hf'.symm⟩
  rw [hgiven, hp', putField, hf', nodeAt?_put_beside _ _ _ _ _ _ htype hne]
  constructor
  · intro hg
    rw [hlost hg, kept_none]
    exact nodeAt?_none _
  · intro hg
    rw [hkept hg, htype, ht.bind_kept hb, hproperty, Bool.false_and, Bool.and_false,
      if_neg Bool.false_ne_true, ← nodeAt?_append, List.append_assoc, List.singleton_append]

/-- Between the places of a field and of a step below it, a history says the same. -/
theorem IsNode.cons_of_beyond {p : List Step} {s : Step} {node : Fragment}
    (hn : IsNode h p s node) (hp : ¬ p <+: f.path) : IsNode (f :: h) p s node :=
  hn.of_retyped_eq (retyped_cons (fun heq => hp (heq ▸ List.prefix_refl _))
    fun hpf => hp ((List.prefix_append _ _).trans hpf))

/-! ### The end of a path -/

section

variable {p : List Step} {s : Step} {strict : Bool} {old : Option Fragment}
  (hn : ∀ node, old = some node → IsNode h p s node)
include hn

theorem bind_properties_eq_none (hs : s = .items) :
    (leafBase strict old).bind (Table.get? · "properties") = none := by
  cases hb : leafBase strict old with
  | none => rfl
  | some node => exact (hn node (eq_of_leafBase hb)).properties hs

theorem exists_obj_of_items (hs : s = .items) :
    ∀ v, (leafBase strict old).bind (Table.get? · "items") = some v → ∃ below, v = .obj below := by
  intro v hv
  cases hb : leafBase strict old with
  | none => simp [hb] at hv
  | some node =>
      rw [hb, Option.bind_some] at hv
      exact (hn node (eq_of_leafBase hb)).items hs v hv

/-- Laying a schema over a node leaves its children, and brings items when there are none. -/
theorem child?_put_nil {schema : Fragment} (hflat : IsFlat schema) :
    child? (put strict old schema []) s = (old.bind (child? · s)).or (ownItems schema s) := by
  rw [put_nil, ← bind_leafBase strict]
  cases s with
  | property name =>
      rw [child?_placeLeaf_property hflat, ownItems, if_neg (by simp), Option.or_none]
  | items =>
      rw [child?_placeLeaf_items hflat _ (bind_properties_eq_none hn rfl)
        (exists_obj_of_items hn rfl), ownItems, if_pos rfl]

theorem isNode_put_nil (hflat : IsFlat f.schema) (hpath : f.path = p) :
    IsNode (f :: h) p s (put strict old f.schema []) where
  properties := by
    intro hs
    rw [put_nil, get?_placeLeaf_properties hflat, bind_properties_eq_none hn hs]
  items := by
    intro hs v hv
    rw [put_nil, get?_placeLeaf_items hflat _ (bind_properties_eq_none hn hs)] at hv
    rcases Option.or_eq_some_iff.1 hv with hold | ⟨_, hown⟩
    · exact exists_obj_of_items hn hs v hold
    · exact ⟨_, hflat.items v hown⟩
  typed := by
    intro hchild
    cases s with
    | property name =>
        -- the child is among the properties, and they mend the type
        rw [put_nil, child?_placeLeaf_property hflat] at hchild
        cases hb : leafBase strict old with
        | none => simp [hb] at hchild
        | some node =>
            rw [hb, Option.bind_some] at hchild
            rw [put_nil, hb]
            exact hasType_placeLeaf_object hflat (isSet_of_child? hchild)
    | items =>
        rw [put_nil, retyped, if_pos hpath, Step.isItems, Bool.true_and, Bool.not_not]
        exact hasType_placeLeaf hflat _ (bind_properties_eq_none hn rfl) _

end

/-! ### The step and the run -/

/-- A node that is left on the path of a field was there, and nothing was given up. -/
theorem Tracks.of_onWay (ht : Tracks fs h root) (hf : f ∈ fs) {p : List Step} (hp : p <+: f.path)
    {node : Fragment} (hnode : Rule.onWay false (some root) p = some node) :
    nodeAt? (some root) p = some node ∧ ¬ GivesUp h f p := by
  obtain ⟨hlost, hkept⟩ := ht.onWay hf hp
  by_cases hg : GivesUp h f p
  · rw [hlost hg] at hnode
    simp at hnode
  · exact ⟨(hkept hg).symm.trans hnode, hg⟩

/-- Beyond the end of a path there are the old children, and the items that came along. -/
theorem Tracks.nodeAt?_beyond (hfs : Regular fs) (ht : Tracks fs h root) (hf : f ∈ fs) {t : Step}
    (hs : GoesOn fs f.path t) (r : List Step) :
    nodeAt? (some (putField root f)) (f.path ++ t :: r) =
      nodeAt? (((Rule.onWay false (some root) f.path).bind (child? · t)).or
        (ownItems f.schema t)) r := by
  have hn : ∀ node, Rule.onWay false (some root) f.path = some node → IsNode h f.path t node :=
    fun node hnode => ht.node _ _ hs node (ht.of_onWay hf (List.prefix_refl _) hnode).1
  rw [putField, nodeAt?_put_beyond, nodeAt?, Option.bind_some, child?_put_nil hn (hfs.flat f hf)]

/-- The old children beyond the end of a path, as far as they were not given up. -/
theorem Tracks.isSome_beyond (ht : Tracks fs h root) (hf : f ∈ fs) (t : Step) (r : List Step) :
    (nodeAt? ((Rule.onWay false (some root) f.path).bind (child? · t)) r).isSome = true ↔
      (nodeAt? (some root) (f.path ++ t :: r)).isSome = true ∧ ¬ GivesUp h f f.path := by
  obtain ⟨hlost, hkept⟩ := ht.onWay hf (List.prefix_refl _)
  rw [nodeAt?_append, nodeAt?]
  by_cases hg : GivesUp h f f.path
  · rw [hlost hg]
    simp [hg]
  · rw [hkept hg]
    simp [hg]

/-- The field of the parent itself: the child stays, or comes along as unknown items. -/
theorem Tracks.present_at (hfs : Regular fs) (ht : Tracks fs h root) (hf : f ∈ fs) {s : Step}
    (hs : GoesOn fs f.path s) :
    (nodeAt? (some (putField root f)) (f.path ++ [s])).isSome = true ↔ Kept (f :: h) f.path s := by
  have hb := ht.isSome_beyond hf s []
  rw [nodeAt?_nil, ht.present _ s hs] at hb
  have hpf : ¬ f.path ++ [s] <+: f.path := not_append_cons_isPrefix _ _ _
  rw [ht.nodeAt?_beyond hfs hf hs, nodeAt?_nil, Option.isSome_or, Bool.or_eq_true,
    isSome_ownItems (hfs.flat f hf), hb]
  simp only [Kept, hpf, false_or, true_and]
  exact Or.comm

/-- A field above the parent: the child stays unless it is given up. -/
theorem Tracks.present_below (hfs : Regular fs) (ht : Tracks fs h root) (hf : f ∈ fs)
    {r : List Step} {s t : Step} (hs : GoesOn fs (f.path ++ t :: r) s) :
    (nodeAt? (some (putField root f)) ((f.path ++ t :: r) ++ [s])).isSome = true ↔
      Kept (f :: h) (f.path ++ t :: r) s := by
  have hb := ht.isSome_beyond hf t (r ++ [s])
  rw [← List.cons_append, ← List.append_assoc, ht.present _ s hs] at hb
  have hgiven : GivesUp h f (f.path ++ t :: r) ↔ GivesUp h f f.path := by
    constructor
    · rintro ⟨q, _, hq, hrest⟩
      exact ⟨q, hq, hq, hrest⟩
    · exact GivesUp.mono (List.prefix_append _ _)
  have hpf : ¬ (f.path ++ t :: r) ++ [s] <+: f.path := fun hp =>
    not_append_cons_isPrefix _ _ _ ((List.prefix_append _ _).trans hp)
  -- what the field brings along has no children
  rw [List.append_assoc, List.cons_append, ht.nodeAt?_beyond hfs hf hs.of_append,
    nodeAt?_or_ownItems (hfs.flat f hf) _ _ (by simp), hb]
  simp only [Kept, hpf, hgiven, false_or]
  constructor
  · exact .inr
  · rintro (⟨heq, -⟩ | hkept)
    · simp at heq
    · exact hkept

/-- A field beside the child: the child stays unless it is given up. -/
theorem Tracks.present_beside (hfs : Regular fs) (ht : Tracks fs h root) (hf : f ∈ fs)
    {p : List Step} {s : Step} (hs : GoesOn fs p s) (hpf : ¬ p ++ [s] <+: f.path)
    (hfp : ¬ f.path <+: p ++ [s]) :
    (nodeAt? (some (putField root f)) (p ++ [s])).isSome = true ↔ Kept (f :: h) p s := by
  obtain ⟨hlost, hkept⟩ := ht.nodeAt?_beside hfs hf hs hpf hfp
  have hne : f.path ≠ p := fun heq => hfp (heq ▸ List.prefix_append _ _)
  simp only [Kept, hpf, hne, false_or, false_and]
  by_cases hg : GivesUp h f p
  · rw [hlost hg]
    simp [hg]
  · rw [hkept hg, ht.present p s hs]
    simp [hg]

/-- The children after one more field. -/
theorem Tracks.present_putField (hfs : Regular fs) (ht : Tracks fs h root) (hf : f ∈ fs)
    {p : List Step} {s : Step} (hs : GoesOn fs p s) :
    (nodeAt? (some (putField root f)) (p ++ [s])).isSome = true ↔ Kept (f :: h) p s := by
  by_cases hpf : p ++ [s] <+: f.path
  · -- the field goes through the child
    obtain ⟨r, hr⟩ := hpf
    rw [putField, ← hr, nodeAt?_put]
    exact ⟨fun _ => .inl ⟨r, hr⟩, fun _ => rfl⟩
  by_cases hfp : f.path <+: p ++ [s]
  · rcases List.prefix_concat_iff.1 hfp with heq | ⟨r, rfl⟩
    · exact absurd (heq ▸ List.prefix_refl _) hpf
    · cases r with
      | nil =>
          rw [List.append_nil] at hs ⊢
          exact ht.present_at hfs hf hs
      | cons t r => exact ht.present_below hfs hf hs
  · exact ht.present_beside hfs hf hs hpf hfp

/-- A node on the way of a field is made ready for its next step. -/
theorem Tracks.isNode_above (hfs : Regular fs) (ht : Tracks fs h root) (hf : f ∈ fs)
    {p r : List Step} {s t : Step} (hs : GoesOn fs p s) (hpath : f.path = p ++ t :: r) :
    IsNode (f :: h) p s
      (put (strictAt false p) (Rule.onWay false (some root) p) f.schema (t :: r)) := by
  have htGoes : GoesOn fs p t := goesOn_of_eq hf hpath
  have htype := hfs.type_eq hs htGoes
  have hpre : p ++ [t] <+: f.path := snoc_isPrefix hpath
  have hne : f.path ≠ p := fun heq => by simp [heq] at hpath
  refine ⟨?_, ?_, fun _ => ?_⟩
  · -- making an array drops properties
    rintro rfl
    obtain rfl := Step.eq_items_of_type_eq htype
    rw [put, setChild, Table.get?_insert_of_ne _ _ (by decide)]
    exact get?_prepare_items_properties fun node hold => (ht.node p _ hs node
      (ht.of_onWay hf ((List.prefix_append _ _).trans hpre) hold).1).properties rfl
  · rintro rfl v hv
    obtain rfl := Step.eq_items_of_type_eq htype
    rw [put, setChild, Table.get?_insert_self] at hv
    exact ⟨_, (Option.some.inj hv).symm⟩
  · rw [htype, hasType_put]
    cases s with
    | property name => rfl
    | items =>
        obtain rfl := Step.eq_items_of_type_eq htype
        rw [retyped, if_neg hne, if_pos hpre]
        rfl

/-- A node beyond the end of the path is an old one, or unknown items. -/
theorem Tracks.node_below (hfs : Regular fs) (ht : Tracks fs h root) (hf : f ∈ fs) {r : List Step}
    {s t : Step} (hs : GoesOn fs (f.path ++ t :: r) s) {node : Fragment}
    (hnode : nodeAt? (some (putField root f)) (f.path ++ t :: r) = some node) :
    IsNode (f :: h) (f.path ++ t :: r) s node := by
  have hpf : ¬ f.path ++ t :: r <+: f.path := not_append_cons_isPrefix _ _ _
  rw [ht.nodeAt?_beyond hfs hf hs.of_append] at hnode
  cases hold : (Rule.onWay false (some root) f.path).bind (child? · t) with
  | some below =>
      obtain ⟨last, hlast, hchild⟩ := Option.bind_eq_some_iff.1 hold
      rw [hold, Option.some_or] at hnode
      refine (ht.node _ s hs node ?_).cons_of_beyond hpf
      rw [nodeAt?_append, (ht.of_onWay hf (List.prefix_refl _) hlast).1, nodeAt?,
        Option.bind_some, hchild, hnode]
  | none =>
      rw [hold] at hnode
      cases r with
      | nil =>
          rw [nodeAt?_nil, Option.none_or] at hnode
          rw [eq_defaultItems_of_ownItems (hfs.flat f hf) hnode]
          exact isNode_defaultItems _ _ _
      | cons u r =>
          rw [nodeAt?_or_ownItems (hfs.flat f hf) _ _ (by simp), nodeAt?_none] at hnode
          simp at hnode

/-- The nodes after one more field. -/
theorem Tracks.node_putField (hfs : Regular fs) (ht : Tracks fs h root) (hf : f ∈ fs)
    {p : List Step} {s : Step} (hs : GoesOn fs p s) {node : Fragment}
    (hnode : nodeAt? (some (putField root f)) p = some node) : IsNode (f :: h) p s node := by
  by_cases hpf : p <+: f.path
  · obtain ⟨r, hr⟩ := hpf
    rw [putField, ← hr, nodeAt?_put, Option.some.injEq] at hnode
    subst hnode
    cases r with
    | nil =>
        rw [List.append_nil] at hr
        exact isNode_put_nil (fun node hold => ht.node p s hs node
          (ht.of_onWay hf (hr ▸ List.prefix_refl _) hold).1) (hfs.flat f hf) hr.symm
    | cons t r => exact ht.isNode_above hfs hf hs hr.symm
  by_cases hfp : f.path <+: p
  · obtain ⟨r, rfl⟩ := hfp
    cases r with
    | nil =>
        rw [List.append_nil] at hpf
        exact absurd (List.prefix_refl _) hpf
    | cons t r => exact ht.node_below hfs hf hs hnode
  · -- the place is not the root, so it is below one that fields go through
    rcases List.eq_nil_or_concat p with rfl | ⟨q, u, rfl⟩
    · exact absurd List.nil_prefix hpf
    · rw [List.concat_eq_append] at *
      have hu : GoesOn fs q u := by
        obtain ⟨g, hg, hpre⟩ := hs
        exact ⟨g, hg, (List.prefix_append _ _).trans hpre⟩
      obtain ⟨hlost, hkept⟩ := ht.nodeAt?_beside hfs hf hu hpf hfp
      by_cases hg : GivesUp h f q
      · rw [hlost hg] at hnode
        simp at hnode
      · rw [hkept hg] at hnode
        exact (ht.node _ s hs node hnode).cons_of_beyond hpf

/-- **The step**: a further field of the list keeps the schema tracked. -/
theorem Tracks.putField (hfs : Regular fs) (ht : Tracks fs h root) (hf : f ∈ fs) :
    Tracks fs (f :: h) (putField root f) where
  present := fun _ _ hs => ht.present_putField hfs hf hs
  node := fun _ _ hs _ hnode => ht.node_putField hfs hf hs hnode

end

/-- **The run**: the schema of all fields is what their history makes of the empty object. -/
theorem tracks_putFields {fs : List Field} (hfs : Regular fs) :
    Tracks fs fs.reverse (fs.foldl putField emptyObject) := by
  -- the fields to come are taken from the front, and the history grows at its front
  have run : ∀ (later h : List Field) (root : Fragment), (∀ f ∈ later, f ∈ fs) →
      Tracks fs h root → Tracks fs (later.reverse ++ h) (later.foldl putField root) := by
    intro later
    induction later with
    | nil => exact fun _ _ _ ht => ht
    | cons f later ih =>
        intro h root hsub ht
        rw [List.reverse_cons, List.append_assoc]
        exact ih (f :: h) _ (fun g hg => hsub g (List.mem_cons_of_mem _ hg))
          (ht.putField hfs (hsub f List.mem_cons_self))
  simpa using run fs [] _ (fun f hf => hf) (tracks_emptyObject hfs)

/-! ### The schema of a request -/

/-- At one place: the parent is as a field needs it when the child was kept and the parent of items
is an array still. -/
theorem upheldAt_iff {rules : RuleMap} (hcompat : Compatible (fields rules)) {p : List Step}
    {s : Step} (hs : GoesOn (fields rules) p s) :
    (∃ node, nodeAt? (some (objectSchema rules).1) p = some node ∧ hasType node s.type = true ∧
        (child? node s).isSome = true) ↔
      Kept (fields rules).reverse p s ∧ (s = .items → retyped (fields rules).reverse p = false) := by
  have hfs := regular_fields hcompat
  have ht := tracks_putFields hfs
  have hpresent := ht.present p s hs
  by_cases hp : p = []
  · -- the root is an object anyway
    subst hp
    obtain ⟨f, hf, hpre⟩ := hs
    obtain ⟨name, rest, hpath⟩ := hfs.atTop f hf
    rw [hpath, List.nil_append, List.cons_prefix_cons] at hpre
    obtain rfl := hpre.1
    rw [List.nil_append, ← nodeAt?_objectSchema _ (by simp)] at hpresent
    rw [← hpresent]
    constructor
    · rintro ⟨node, hnode, _, hchild⟩
      cases hnode
      exact ⟨hchild, by simp⟩
    · rintro ⟨hchild, _⟩
      exact ⟨_, rfl, hasType_objectSchema rules, hchild⟩
  · rw [nodeAt?_objectSchema _ hp, ← hpresent, nodeAt?_snoc]
    cases hnode : nodeAt? (some ((fields rules).foldl Rule.putField emptyObject)) p with
    | none => simp
    | some node =>
        have htyped := (ht.node p s hs node hnode).typed
        constructor
        · rintro ⟨_, heq, htype, hchild⟩
          obtain rfl := Option.some.inj heq
          rw [htyped hchild] at htype
          refine ⟨hchild, ?_⟩
          rintro rfl
          simpa [Step.isItems] using htype
        · rintro ⟨hchild, hretyped⟩
          refine ⟨node, rfl, ?_, hchild⟩
          rw [htyped hchild]
          cases s with
          | property name => rfl
          | items => rw [hretyped rfl]; rfl

/-- **Parents uphold their children exactly when** every child was kept and every parent of items was
last touched by a field below it, or by rules of its own that make an array. -/
theorem upheld_iff (rules : RuleMap) (hcompat : Compatible (fields rules)) :
    Upheld (fields rules) (objectSchema rules).1 ↔
      ∀ p s, GoesOn (fields rules) p s → Kept (fields rules).reverse p s ∧
        (s = .items → retyped (fields rules).reverse p = false) := by
  constructor
  · intro h p s hs
    exact (upheldAt_iff hcompat hs).1 (h p s hs)
  · intro h p s hs
    exact (upheldAt_iff hcompat hs).2 (h p s hs)

/-- A parent of items whose rules ask for a value of any kind is a string afterwards, and has items
that no string has. -/
theorem not_upheld_required_parent :
    let rules : RuleMap := [(.text "a.*", .text "integer"), (.text "a", .text "required")]
    Compatible (fields rules) ∧ ¬ Upheld (fields rules) (objectSchema rules).1 := by
  intro rules
  refine ⟨by decide, fun h => ?_⟩
  have hitems : GoesOn (fields rules) [.property "a"] .items :=
    ⟨⟨[.property "a", .items], [("type", .str "integer")]⟩, by decide, by decide⟩
  have hlast := ((upheld_iff rules (by decide)).1 h _ _ hitems).2 rfl
  exact absurd hlast (by decide)

/-! ### Parents that are arrays -/

section

variable {fs : List Field}
  (harrays : ∀ f ∈ fs, GoesOn fs f.path .items → hasType f.schema "array" = true)
include harrays

theorem retyped_eq_false_of_arrays {h : List Field} (hsub : ∀ f ∈ h, f ∈ fs) {p : List Step}
    (hp : GoesOn fs p .items) : retyped h p = false := by
  induction h with
  | nil => rfl
  | cons f h ih =>
      rw [retyped]
      split
      · rename_i heq
        rw [harrays f (hsub f List.mem_cons_self) (heq ▸ hp)]
        rfl
      · split
        · rfl
        · exact ih fun g hg => hsub g (List.mem_cons_of_mem _ hg)

theorem kept_of_arrays {h : List Field} (hsub : ∀ f ∈ h, f ∈ fs) {p : List Step} {s : Step}
    (hs : GoesOn h p s) : Kept h p s := by
  induction h with
  | nil =>
      obtain ⟨f, hf, _⟩ := hs
      simp at hf
  | cons f h ih =>
      have hrest : ∀ g ∈ h, g ∈ fs := fun g hg => hsub g (List.mem_cons_of_mem _ hg)
      obtain ⟨g, hg, hpre⟩ := hs
      rcases List.mem_cons.1 hg with rfl | hg
      · exact .inl hpre
      · -- nothing was retyped, so the later field gives up nothing
        refine .inr (.inr ⟨ih hrest ⟨g, hg, hpre⟩, ?_⟩)
        rintro ⟨q, _, hqf, _, hretyped⟩
        rw [retyped_eq_false_of_arrays harrays hrest ⟨f, hsub f List.mem_cons_self, hqf⟩] at hretyped
        exact Bool.false_ne_true hretyped

end

/-- Where the rules of a parent of items, if it has any, make an array, parents uphold their
children. -/
theorem upheld_of_arrays (rules : RuleMap) (hcompat : Compatible (fields rules))
    (harrays : ∀ f ∈ fields rules, GoesOn (fields rules) f.path .items →
      hasType f.schema "array" = true) :
    Upheld (fields rules) (objectSchema rules).1 := by
  intro p s hs
  have hsub : ∀ f ∈ (fields rules).reverse, f ∈ fields rules := fun f hf => List.mem_reverse.1 hf
  refine (upheldAt_iff hcompat hs).2 ⟨kept_of_arrays harrays hsub ?_, ?_⟩
  · obtain ⟨f, hf, hpre⟩ := hs
    exact ⟨f, List.mem_reverse.2 hf, hpre⟩
  · rintro rfl
    exact retyped_eq_false_of_arrays harrays hsub hs

end RouteDoc.Rule
