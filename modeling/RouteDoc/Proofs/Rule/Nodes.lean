import RouteDoc.Rule.Mapping
/-!
# RouteDoc.Proofs.Rule.Nodes

**The nodes of a schema and what placing a field does to them.** A node is reached from the root of
a schema by steps, to a property or to the items of an array (`nodeAt?`).

* `put` is placing in one recursion over the steps: the node at a place is made ready for the next
  step (`prepare`), and at the end the schema is laid over what is there. Both ways of placing are
  `put` (`placeAt_eq_put_and_placeItems`), so a mapping is a run of it (`object_addFields`).
* `onWay` is what is left of the old schema at the end of a path. Below the items of an array a node
  of another type than the next step needs is given up (`kept`), so it may be less than `nodeAt?`.
* The lemmas at the end say what is at any place afterwards: on the path, off it, and beyond its end.
-/

namespace RouteDoc.Rule

/-! ### Steps -/

/-- A step from a node to one below it. -/
inductive Step where
  /-- To the property of a name. -/
  | property (name : String)
  /-- To the items of an array. -/
  | items
deriving DecidableEq, Repr

namespace Step

/-- The type that a node needs for the step. -/
def type : Step → String
  | .property _ => "object"
  | .items => "array"

/-- Whether the step leads to the items of an array. -/
def isItems : Step → Bool
  | .property _ => false
  | .items => true

/-- The step that a segment below the top stands for. -/
def ofSegment (segment : String) : Step := if segment = "*" then .items else .property segment

end Step

/-- The steps of a path; the first segment is a property, whatever it is. -/
def steps : List String → List Step
  | [] => []
  | head :: rest => .property head :: rest.map Step.ofSegment

/-- The node one step below. -/
def child? (node : Fragment) : Step → Option Fragment
  | .property name => (fragmentAt? node "properties").bind (fragmentAt? · name)
  | .items => fragmentAt? node "items"

/-- The node at the end of a path. -/
def nodeAt? (node : Option Fragment) : List Step → Option Fragment
  | [] => node
  | s :: rest => nodeAt? (node.bind (child? · s)) rest

@[simp] theorem nodeAt?_nil (node : Option Fragment) : nodeAt? node [] = node := rfl

@[simp] theorem nodeAt?_none (p : List Step) : nodeAt? none p = none := by
  induction p with
  | nil => rfl
  | cons s rest ih => exact ih

theorem nodeAt?_append (node : Option Fragment) (p q : List Step) :
    nodeAt? node (p ++ q) = nodeAt? (nodeAt? node p) q := by
  induction p generalizing node with
  | nil => rfl
  | cons s rest ih => exact ih _

theorem nodeAt?_snoc (node : Option Fragment) (p : List Step) (s : Step) :
    nodeAt? node (p ++ [s]) = (nodeAt? node p).bind (child? · s) := by
  rw [nodeAt?_append]
  rfl

theorem nodeAt?_emptyObject {p : List Step} (hp : p ≠ []) : nodeAt? (some emptyObject) p = none := by
  cases p with
  | nil => exact absurd rfl hp
  | cons s rest =>
      have hnone : child? emptyObject s = none := by cases s <;> rfl
      rw [nodeAt?, Option.bind_some, hnone, nodeAt?_none]

/-! ### Paths that part -/

theorem snoc_isPrefix {p c r : List Step} {s : Step} (h : p = c ++ s :: r) : c ++ [s] <+: p :=
  ⟨r, by rw [h, List.append_assoc, List.singleton_append]⟩

/-- Two paths of which neither goes on the other part at some place. -/
theorem exists_fork {p q : List Step} (hpq : ¬ p <+: q) (hqp : ¬ q <+: p) :
    ∃ c s t r r', s ≠ t ∧ p = c ++ s :: r ∧ q = c ++ t :: r' := by
  induction p generalizing q with
  | nil => exact absurd List.nil_prefix hpq
  | cons s p ih =>
      cases q with
      | nil => exact absurd List.nil_prefix hqp
      | cons t q =>
          by_cases hst : s = t
          · subst hst
            rw [List.cons_prefix_cons, not_and] at hpq hqp
            obtain ⟨c, a, b, r, r', hne, rfl, rfl⟩ := ih (hpq rfl) (hqp rfl)
            exact ⟨s :: c, a, b, r, r', hne, rfl, rfl⟩
          · exact ⟨[], s, t, p, q, hst, rfl, rfl⟩

theorem not_append_cons_isPrefix (p q : List Step) (s : Step) : ¬ p ++ s :: q <+: p := by
  intro h
  have hlength := h.length_le
  rw [List.length_append, List.length_cons] at hlength
  omega

/-- What two paths share ends where they part. -/
theorem prefix_of_fork {l c r r' : List Step} {a b : Step} (hne : a ≠ b)
    (ha : l <+: c ++ a :: r) (hb : l <+: c ++ b :: r') : l <+: c := by
  induction c generalizing l with
  | nil =>
      cases l with
      | nil => exact List.prefix_refl _
      | cons x l =>
          rw [List.nil_append, List.cons_prefix_cons] at ha hb
          exact absurd (ha.1.symm.trans hb.1) hne
  | cons d c ih =>
      cases l with
      | nil => exact List.nil_prefix
      | cons x l =>
          rw [List.cons_append, List.cons_prefix_cons] at ha hb
          exact List.cons_prefix_cons.2 ⟨ha.1, ih ha.2 hb.2⟩

/-! ### Reading entries of a node -/

theorem fragmentAt?_insert_self (node : Fragment) (key : String) (v : Fragment) :
    fragmentAt? (Table.insert node key (.obj v)) key = some v := by
  simp [fragmentAt?, Value.entries?]

theorem fragmentAt?_insert_of_ne (node : Fragment) {key k : String} (v : Value) (h : key ≠ k) :
    fragmentAt? (Table.insert node key v) k = fragmentAt? node k := by
  rw [fragmentAt?, fragmentAt?, Table.get?_insert_of_ne _ _ h]

theorem fragmentAt?_erase_of_ne (node : Fragment) {key k : String} (h : key ≠ k) :
    fragmentAt? (Table.erase node key) k = fragmentAt? node k := by
  rw [fragmentAt?, fragmentAt?, Table.get?_erase_of_ne _ h]

theorem hasType_iff {node : Fragment} {type : String} :
    hasType node type = true ↔ Table.get? node "type" = some (.str type) := by
  simp [hasType]

theorem hasType_insert_of_ne (node : Fragment) {key : String} (v : Value) (type : String)
    (h : key ≠ "type") : hasType (Table.insert node key v) type = hasType node type := by
  rw [hasType, hasType, Table.get?_insert_of_ne _ _ h]

/-! ### Making a node ready for a step -/

/-- Make a node an array: it loses its properties. -/
def asArray (node : Fragment) : Fragment :=
  Table.erase (Table.insert node "type" (.str "array")) "properties"

/-- What is kept of the node at a place, when a node of a type is needed there. A property keeps what
it has; in the items of an array (`strict`) a node of another type is given up. -/
def kept (strict : Bool) (old : Option Fragment) (type : String) : Option Fragment :=
  if strict then old.filter (hasType · type) else old

/-- The node at a place, ready for a step below it. -/
def prepare (strict : Bool) (old : Option Fragment) : Step → Fragment
  | .property _ => asObject ((kept strict old "object").getD emptyObject)
  | .items => asArray ((kept strict old "array").getD emptyArray)

/-- Write the node one step below. -/
def setChild (node : Fragment) : Step → Fragment → Fragment
  | .property name, below =>
      let properties := (fragmentAt? node "properties").getD []
      Table.insert node "properties" (.obj (Table.insert properties name (.obj below)))
  | .items, below => Table.insert node "items" (.obj below)

/-- Put a schema at the end of a path below a place. -/
def put (strict : Bool) (old : Option Fragment) (schema : Fragment) : List Step → Fragment
  | [] => placeLeaf (if strict then old.filter (· ≠ defaultItems) else old) schema
  | s :: rest =>
      let node := prepare strict old s
      setChild node s (put s.isItems (child? node s) schema rest)

@[simp] theorem kept_none (strict : Bool) (type : String) : kept strict none type = none := by
  cases strict <;> rfl

theorem kept_eq_some {strict : Bool} {node : Fragment} {type : String}
    (h : strict = true → hasType node type = true) :
    kept strict (some node) type = some node := by
  cases strict with
  | false => rfl
  | true => simp [kept, h rfl]

theorem kept_eq_none_or (strict : Bool) (node : Fragment) (type : String) :
    kept strict (some node) type = none ∨ kept strict (some node) type = some node := by
  cases strict with
  | false => exact .inr rfl
  | true =>
      cases h : hasType node type with
      | false => exact .inl (by simp [kept, h])
      | true => exact .inr (by simp [kept, h])

theorem kept_strict_of_not_hasType {node : Fragment} {type : String}
    (h : hasType node type = false) : kept true (some node) type = none := by
  simp [kept, h]

theorem get?_asObject_properties (node : Fragment) :
    Table.get? (asObject node) "properties" =
      some ((Table.get? node "properties").getD (.obj [])) := by
  unfold asObject
  rw [Table.get?_insertIfNew, if_pos rfl]
  split
  · rfl
  · rw [Table.get?_erase_of_ne _ (by decide), Table.get?_insert_of_ne _ _ (by decide)]

theorem hasType_asObject (node : Fragment) : hasType (asObject node) "object" = true := by
  unfold asObject
  rw [hasType_iff, Table.get?_insertIfNew, if_neg (by decide)]
  split
  · rename_i h
    exact hasType_iff.1 h
  · rw [Table.get?_erase_of_ne _ (by decide), Table.get?_insert_self]

theorem hasType_asArray (node : Fragment) : hasType (asArray node) "array" = true := by
  unfold asArray
  rw [hasType_iff, Table.get?_erase_of_ne _ (by decide), Table.get?_insert_self]

theorem child?_asObject (node : Fragment) (name : String) :
    child? (asObject node) (.property name) = child? node (.property name) := by
  simp only [child?, fragmentAt?, get?_asObject_properties]
  cases Table.get? node "properties" with
  | none => rfl
  | some v => rfl

theorem child?_asArray (node : Fragment) : child? (asArray node) .items = child? node .items := by
  simp only [child?, asArray]
  rw [fragmentAt?_erase_of_ne _ (by decide), fragmentAt?_insert_of_ne _ _ (by decide)]

theorem hasType_prepare (strict : Bool) (old : Option Fragment) (s : Step) :
    hasType (prepare strict old s) s.type = true := by
  cases s with
  | property name => exact hasType_asObject _
  | items => exact hasType_asArray _

theorem get?_asArray_properties {node : Fragment} (h : Table.get? node "properties" = none) :
    Table.get? (asArray node) "properties" = none := by
  have hempty : Table.get? (Table.insert node "type" (.str "array")) "properties" = none := by
    rw [Table.get?_insert_of_ne _ _ (by decide), h]
  rw [asArray, Table.erase_of_get?_eq_none hempty, hempty]

/-- A node that was made ready for items has no properties, if there were none to keep. -/
theorem get?_prepare_items_properties {strict : Bool} {old : Option Fragment}
    (h : ∀ node, old = some node → Table.get? node "properties" = none) :
    Table.get? (prepare strict old .items) "properties" = none := by
  refine get?_asArray_properties ?_
  cases old with
  | none =>
      rw [kept_none]
      rfl
  | some node =>
      rcases kept_eq_none_or strict node "array" with hk | hk
      · rw [hk]
        rfl
      · rw [hk]
        exact h node rfl

theorem Step.eq_items_of_type_eq {s : Step} (h : Step.items.type = s.type) : s = .items := by
  cases s with
  | property name => simp [Step.type] at h
  | items => rfl

theorem Step.exists_property_of_type_eq {name : String} {s : Step}
    (h : (Step.property name).type = s.type) : ∃ other, s = .property other := by
  cases s with
  | property other => exact ⟨other, rfl⟩
  | items => simp [Step.type] at h

/-- A node that was made ready for a step has those children of that kind which were kept. -/
theorem child?_prepare (strict : Bool) (old : Option Fragment) {s t : Step} (h : s.type = t.type) :
    child? (prepare strict old s) t = (kept strict old s.type).bind (child? · t) := by
  cases s with
  | property name =>
      obtain ⟨other, rfl⟩ := Step.exists_property_of_type_eq h
      simp only [prepare, child?_asObject, Step.type]
      cases kept strict old "object" with
      | none => rfl
      | some node => rfl
  | items =>
      rw [Step.eq_items_of_type_eq h]
      simp only [prepare, child?_asArray, Step.type]
      cases kept strict old "array" with
      | none => rfl
      | some node => rfl

/-! ### Writing a node -/

theorem child?_setChild_self (node : Fragment) (s : Step) (below : Fragment) :
    child? (setChild node s below) s = some below := by
  cases s with
  | property name => simp [child?, setChild, fragmentAt?_insert_self]
  | items => exact fragmentAt?_insert_self ..

theorem child?_setChild_of_ne (node : Fragment) {s t : Step} (below : Fragment)
    (hk : s.type = t.type) (h : s ≠ t) : child? (setChild node s below) t = child? node t := by
  cases s with
  | property name =>
      obtain ⟨other, rfl⟩ := Step.exists_property_of_type_eq hk
      have hne : name ≠ other := fun e => h (e ▸ rfl)
      simp only [child?, setChild, fragmentAt?_insert_self, Option.bind_some]
      rw [fragmentAt?_insert_of_ne _ _ hne]
      cases fragmentAt? node "properties" with
      | none => rfl
      | some properties => rfl
  | items => exact absurd (Step.eq_items_of_type_eq hk).symm h

theorem hasType_setChild (node : Fragment) (s : Step) (below : Fragment) (type : String) :
    hasType (setChild node s below) type = hasType node type := by
  cases s with
  | property name => exact hasType_insert_of_ne _ _ _ (by decide)
  | items => exact hasType_insert_of_ne _ _ _ (by decide)

/-! ### What is at a place afterwards -/

/-- What is left at the end of a path of what was below a place. -/
def onWay (strict : Bool) (old : Option Fragment) : List Step → Option Fragment
  | [] => old
  | s :: rest => onWay s.isItems ((kept strict old s.type).bind (child? · s)) rest

/-- Whether the end of a path is in the items of an array. -/
def strictAt (strict : Bool) : List Step → Bool
  | [] => strict
  | s :: rest => strictAt s.isItems rest

theorem onWay_append (strict : Bool) (old : Option Fragment) (p q : List Step) :
    onWay strict old (p ++ q) = onWay (strictAt strict p) (onWay strict old p) q := by
  induction p generalizing strict old with
  | nil => rfl
  | cons s rest ih => exact ih _ _

theorem onWay_snoc (strict : Bool) (old : Option Fragment) (p : List Step) (s : Step) :
    onWay strict old (p ++ [s]) =
      (kept (strictAt strict p) (onWay strict old p) s.type).bind (child? · s) := by
  rw [onWay_append]
  rfl

/-- Where every node on the way is kept, nothing is lost. -/
theorem onWay_eq_nodeAt? {strict : Bool} {old : Option Fragment} {p : List Step}
    (h : ∀ q s r, p = q ++ s :: r →
      kept (strictAt strict q) (nodeAt? old q) s.type = nodeAt? old q) :
    onWay strict old p = nodeAt? old p := by
  induction p generalizing strict old with
  | nil => rfl
  | cons s rest ih =>
      have hs : kept strict old s.type = old := h [] s rest rfl
      rw [onWay, hs, nodeAt?]
      exact ih fun q t r hr => h (s :: q) t r (by rw [hr]; rfl)

theorem child?_put_self (strict : Bool) (old : Option Fragment) (schema : Fragment) (s : Step)
    (rest : List Step) :
    child? (put strict old schema (s :: rest)) s =
      some (put s.isItems ((kept strict old s.type).bind (child? · s)) schema rest) := by
  rw [put, child?_setChild_self, child?_prepare _ _ rfl]

theorem child?_put_of_ne (strict : Bool) (old : Option Fragment) (schema : Fragment) {s t : Step}
    (rest : List Step) (hk : s.type = t.type) (h : s ≠ t) :
    child? (put strict old schema (s :: rest)) t =
      (kept strict old s.type).bind (child? · t) := by
  rw [put, child?_setChild_of_ne _ _ hk h, child?_prepare _ _ hk]

theorem hasType_put (strict : Bool) (old : Option Fragment) (schema : Fragment) (s : Step)
    (rest : List Step) : hasType (put strict old schema (s :: rest)) s.type = true := by
  rw [put, hasType_setChild, hasType_prepare]

/-- **On the path**: the node at a prefix is what placing makes there of what was left. -/
theorem nodeAt?_put (strict : Bool) (old : Option Fragment) (schema : Fragment)
    (p q : List Step) :
    nodeAt? (some (put strict old schema (p ++ q))) p =
      some (put (strictAt strict p) (onWay strict old p) schema q) := by
  induction p generalizing strict old with
  | nil => rfl
  | cons s rest ih =>
      rw [List.cons_append, nodeAt?, Option.bind_some, child?_put_self]
      exact ih _ _

/-- **Off the path**: a node beside it is there when the one where the ways part was kept. -/
theorem nodeAt?_put_beside (strict : Bool) (old : Option Fragment) (schema : Fragment)
    (p q r : List Step) {s t : Step} (hk : s.type = t.type) (h : s ≠ t) :
    nodeAt? (some (put strict old schema (p ++ s :: q))) (p ++ t :: r) =
      nodeAt? ((kept (strictAt strict p) (onWay strict old p) s.type).bind (child? · t)) r := by
  rw [nodeAt?_append, nodeAt?_put, nodeAt?, Option.bind_some, child?_put_of_ne _ _ _ _ hk h]

/-- **Beyond the end**: nodes are below the schema that was laid over what was left. -/
theorem nodeAt?_put_beyond (strict : Bool) (old : Option Fragment) (schema : Fragment)
    (p q : List Step) :
    nodeAt? (some (put strict old schema p)) (p ++ q) =
      nodeAt? (some (put (strictAt strict p) (onWay strict old p) schema [])) q := by
  have hp := nodeAt?_put strict old schema p []
  rw [List.append_nil] at hp
  rw [nodeAt?_append, hp]

/-! ### Placing is putting -/

theorem asObject_of_hasType {node : Fragment} (h : hasType node "object" = true) :
    asObject node = Table.insertIfNew node "properties" (.obj []) := by
  rw [asObject, if_pos h]

/-- The fragment under a name among the properties of a node, when none are like empty ones. -/
theorem fragmentAt?_properties (node : Fragment) (name : String) :
    fragmentAt? ((fragmentAt? node "properties").getD []) name = child? node (.property name) := by
  rw [child?]
  cases fragmentAt? node "properties" with
  | none => rfl
  | some properties => rfl

theorem hasType_filter_getD (items : Option Fragment) :
    hasType ((items.filter (hasType · "object")).getD emptyObject) "object" = true := by
  cases h : items.filter (hasType · "object") with
  | none => rfl
  | some node => exact (Option.filter_eq_some_iff.1 h).2

/-- Placing at a property and placing below the items of an array are both `put`. One statement,
since each of the two goes on as the other. -/
theorem placeAt_eq_put_and_placeItems (rest : List String) (schema : Fragment) :
    (∀ properties head, placeAt properties head rest schema =
      Table.insert properties head
        (.obj (put false (fragmentAt? properties head) schema (rest.map Step.ofSegment)))) ∧
    (∀ node, placeItems node rest schema =
      setChild (asArray node) .items
        (put true (child? (asArray node) .items) schema (rest.map Step.ofSegment))) := by
  induction rest with
  | nil =>
      -- the end of the path: the schema is laid over what is there
      refine ⟨fun properties head => ?_, fun node => ?_⟩
      · rw [placeAt]
        rfl
      · rw [placeItems]
        rfl
  | cons next rest ih =>
      -- the next segment says which of the two goes on
      obtain ⟨ihAt, ihItems⟩ := ih
      refine ⟨fun properties head => ?_, fun node => ?_⟩
      · rw [placeAt, List.map_cons, Step.ofSegment]
        split
        · dsimp only
          rw [ihItems, put]
          rfl
        · dsimp only
          rw [ihAt, put, fragmentAt?_properties]
          rfl
      · rw [placeItems, List.map_cons, Step.ofSegment]
        split
        · dsimp only
          rw [ihItems, put]
          rfl
        · dsimp only
          rw [ihAt, put, ← asObject_of_hasType (hasType_filter_getD _), fragmentAt?_properties]
          rfl

/-! ### The whole mapping -/

/-- A field that has a place: its path, and what its rules make. -/
structure Field where
  /-- Where it is. -/
  path : List Step
  /-- What is to be there. -/
  schema : Fragment
deriving DecidableEq

/-- The field that an entry of a rule map writes; a name without segments has no place. -/
def Field.of? (e : FieldName × Expr) : Option Field :=
  match steps (segments e.1.path) with
  | [] => none
  | path => some ⟨path, (mapField e.1 e.2).schema⟩

/-- The fields of a rule map that have a place, in order. -/
def fields (rules : RuleMap) : List Field := rules.filterMap Field.of?

/-- Put a field into a schema. -/
def putField (root : Fragment) (f : Field) : Fragment := put false (some root) f.schema f.path

/-- The schema of a draft, the list of required properties apart. -/
def Draft.object (draft : Draft) : Fragment :=
  [("type", .str "object"), ("properties", .obj draft.properties)]

theorem object_place (properties : Fragment) (head : String) (rest : List String)
    (schema : Fragment) :
    ([("type", .str "object"), ("properties", .obj (place properties (head :: rest) schema))] :
      Fragment) =
      put false (some [("type", .str "object"), ("properties", .obj properties)]) schema
        (steps (head :: rest)) := by
  rw [place, (placeAt_eq_put_and_placeItems rest schema).1]
  rfl

/-- Adding a field to a draft puts it into its schema. -/
theorem object_addField (draft : Draft) (e : FieldName × Expr) :
    (draft.addField e).object = (Field.of? e).elim draft.object (putField draft.object) := by
  unfold Draft.addField Field.of?
  cases hp : segments e.1.path with
  | nil => rfl
  | cons head rest => exact object_place ..

theorem object_addFields (rules : RuleMap) (draft : Draft) :
    (rules.foldl Draft.addField draft).object = (fields rules).foldl putField draft.object := by
  induction rules generalizing draft with
  | nil => rfl
  | cons e rest ih =>
      rw [List.foldl_cons, ih, object_addField, fields, fields, List.filterMap_cons]
      cases Field.of? e with
      | none => rfl
      | some f => rfl

/-- Every path of a rule map starts at a property of the root. -/
theorem exists_property_of_mem_fields {rules : RuleMap} {f : Field} (h : f ∈ fields rules) :
    ∃ name rest, f.path = .property name :: rest := by
  obtain ⟨e, _, he⟩ := List.mem_filterMap.1 h
  unfold Field.of? at he
  cases hp : segments e.1.path with
  | nil => simp [hp, steps] at he
  | cons head rest =>
      simp only [hp, steps, Option.some.injEq] at he
      exact ⟨head, rest.map Step.ofSegment, by rw [← he]⟩

/-- The root of the finished schema has the nodes of the last draft below it. -/
theorem nodeAt?_objectSchema (rules : RuleMap) {p : List Step} (hp : p ≠ []) :
    nodeAt? (some (objectSchema rules).1) p =
      nodeAt? (some ((fields rules).foldl putField emptyObject)) p := by
  have hroot : ∀ (draft : Draft) (s : Step), child? draft.schema s = child? draft.object s := by
    intro draft s
    unfold Draft.schema
    dsimp only
    split
    · rfl
    · cases s <;> rfl
  cases p with
  | nil => exact absurd rfl hp
  | cons s rest =>
      have hobject := object_addFields rules {}
      rw [nodeAt?, nodeAt?, Option.bind_some, Option.bind_some, objectSchema, hroot, hobject]
      rfl

theorem hasType_objectSchema (rules : RuleMap) : hasType (objectSchema rules).1 "object" = true := by
  unfold objectSchema Draft.schema
  dsimp only
  split
  · rfl
  · rfl

end RouteDoc.Rule
