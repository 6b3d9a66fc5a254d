import RouteDoc.Proofs.Rule.Leaf
/-!
# RouteDoc.Proofs.Rule.WellFormed

**Every node of a mapped schema makes sense.** Whatever the rules are and however their paths cross,
each node below the root has one of six types, an array has items, and a node with properties is an
object with at least one (`Proper`, `objectSchema_wellFormed`).

* The invariant speaks of all nodes at and below a place (`WellFormed`). It is put together from the
  node and its children (`WellFormed.of_children`), and an induction on the path carries it through
  `put` (`WellFormed.put`).
* Placing needs less of a node that it goes through than it leaves behind: the node on the way only
  has to be a table of nodes (`Tidy`), and gets its type and its child in the same step. The empty
  root is such a node.
-/

namespace RouteDoc.Rule

open RouteDoc.Schema

/-! ### Nodes that make sense -/

/-- A node has nodes below it, each under one name. -/
structure Shaped (node : Fragment) : Prop where
  nodup : (Table.keys node).Nodup
  /-- Properties are a table of nodes. -/
  properties : ∀ v, Table.get? node "properties" = some v → ∃ entries, v = .obj entries ∧
    (Table.keys entries).Nodup ∧ ∀ e ∈ entries, ∃ below, e.2 = .obj below
  /-- Items are a node. -/
  items : ∀ v, Table.get? node "items" = some v → ∃ below, v = .obj below

/-- A node as it should be below the root. -/
structure Proper (node : Fragment) : Prop extends Shaped node where
  /-- It has one of six types. -/
  typed : ∃ type ∈ schemaTypes, Table.get? node "type" = some (.str type)
  /-- An array has items. -/
  array : hasType node "array" = true → Table.has node "items" = true
  /-- Properties make it an object, and are some. -/
  object : Table.has node "properties" = true →
    hasType node "object" = true ∧ Table.get? node "properties" ≠ some (.obj [])

/-- All nodes at and below a place are as they should be. -/
def WellFormed (node : Option Fragment) : Prop :=
  ∀ p below, nodeAt? node p = some below → Proper below

theorem wellFormed_none : WellFormed none := by
  intro p below h
  simp at h

theorem WellFormed.proper {node : Fragment} (h : WellFormed (some node)) : Proper node :=
  h [] node rfl

theorem WellFormed.child {old : Option Fragment} (h : WellFormed old) (s : Step) :
    WellFormed (old.bind (child? · s)) :=
  fun p below hp => h (s :: p) below hp

theorem WellFormed.of_children {node : Fragment} (h : Proper node)
    (hchild : ∀ s, WellFormed (child? node s)) : WellFormed (some node) := by
  intro p below hp
  cases p with
  | nil => exact Option.some.inj hp ▸ h
  | cons s rest => exact hchild s rest below hp

/-- The items of a node are well formed when the value under their key is. -/
theorem wellFormed_items_iff {node : Fragment} : WellFormed (child? node .items) ↔
    ∀ v, Table.get? node "items" = some v → WellFormed v.entries? := by
  rw [child?, fragmentAt?]
  cases Table.get? node "items" with
  | none => simp [wellFormed_none]
  | some v => simp

/-- What there is at a place is a table of nodes, and all below it is well formed. -/
def Tidy (old : Option Fragment) : Prop :=
  ∀ node, old = some node → Shaped node ∧ ∀ s, WellFormed (child? node s)

theorem WellFormed.tidy {old : Option Fragment} (h : WellFormed old) : Tidy old := by
  rintro node rfl
  exact ⟨h.proper.toShaped, h.child⟩

theorem Tidy.child {old : Option Fragment} (h : Tidy old) (s : Step) :
    WellFormed (old.bind (child? · s)) := by
  cases old with
  | none => exact wellFormed_none
  | some node => exact (h node rfl).2 s

theorem eq_of_kept {strict : Bool} {old : Option Fragment} {type : String} {node : Fragment}
    (h : kept strict old type = some node) : old = some node := by
  unfold kept at h
  split at h
  · exact (Option.filter_eq_some_iff.1 h).1
  · exact h

theorem Tidy.kept {old : Option Fragment} (h : Tidy old) (strict : Bool) (type : String) :
    Tidy (Rule.kept strict old type) :=
  fun node hnode => h node (eq_of_kept hnode)

theorem WellFormed.leafBase {old : Option Fragment} (h : WellFormed old) (strict : Bool) :
    WellFormed (Rule.leafBase strict old) := by
  cases hbase : Rule.leafBase strict old with
  | none => exact wellFormed_none
  | some node => exact eq_of_leafBase hbase ▸ h

/-! ### Flat schemas -/

theorem wellFormed_defaultItems : WellFormed (some defaultItems) := by
  refine WellFormed.of_children ?_ fun s => ?_
  · refine ⟨⟨by decide, ?_, ?_⟩, ⟨"string", by decide, rfl⟩, ?_, ?_⟩
    · simp [defaultItems, Table.get?]
    · simp [defaultItems, Table.get?]
    · decide
    · decide
  · rw [child?_defaultItems]
    exact wellFormed_none

/-- The items that a flat schema brings along are well formed. -/
theorem IsFlat.wellFormed_items {schema : Fragment} (h : IsFlat schema) :
    WellFormed (child? schema .items) := by
  refine wellFormed_items_iff.2 fun v hv => ?_
  obtain rfl := h.items v hv
  exact wellFormed_defaultItems

theorem IsFlat.wellFormed {schema : Fragment} (h : IsFlat schema) : WellFormed (some schema) := by
  have hproperties : Table.has schema "properties" = false := by
    rw [Table.has, h.properties, Option.isSome_none]
  refine WellFormed.of_children ?_ fun s => ?_
  · refine ⟨⟨h.nodup, ?_, ?_⟩, h.typed, h.array, ?_⟩
    · intro v hv
      simp [h.properties] at hv
    · intro v hv
      exact ⟨defaultItems, h.items v hv⟩
    · simp [hproperties]
  · cases s with
    | property name =>
        rw [child?, fragmentAt?, h.properties]
        exact wellFormed_none
    | items => exact h.wellFormed_items

/-! ### Nodes that were made ready -/

theorem nodup_asObject {node : Fragment} (h : (Table.keys node).Nodup) :
    (Table.keys (asObject node)).Nodup := by
  unfold asObject
  refine Table.nodup_keys_insertIfNew _ _ ?_
  split
  · exact h
  · exact Table.nodup_keys_erase _ (Table.nodup_keys_insert _ _ h)

/-- A node that becomes an object has the items from before, or none. -/
theorem get?_items_of_asObject {node : Fragment} {v : Value} (h : (Table.keys node).Nodup)
    (hv : Table.get? (asObject node) "items" = some v) : Table.get? node "items" = some v := by
  unfold asObject at hv
  rw [Table.get?_insertIfNew, if_neg (by decide)] at hv
  split at hv
  · exact hv
  · simp [Table.get?_erase_self _ (Table.nodup_keys_insert _ _ h)] at hv

theorem Shaped.asObject {node : Fragment} (h : Shaped node) : Shaped (Rule.asObject node) := by
  refine ⟨nodup_asObject h.nodup, ?_, ?_⟩
  · intro v hv
    rw [get?_asObject_properties] at hv
    obtain rfl := Option.some.inj hv
    cases hold : Table.get? node "properties" with
    | none => exact ⟨[], rfl, List.nodup_nil, by simp⟩
    | some old => exact h.properties old hold
  · intro v hv
    exact h.items v (get?_items_of_asObject h.nodup hv)

theorem get?_properties_asArray {node : Fragment} (h : (Table.keys node).Nodup) :
    Table.get? (asArray node) "properties" = none :=
  Table.get?_erase_self _ (Table.nodup_keys_insert _ _ h)

theorem Shaped.asArray {node : Fragment} (h : Shaped node) : Shaped (Rule.asArray node) := by
  refine ⟨Table.nodup_keys_erase _ (Table.nodup_keys_insert _ _ h.nodup), ?_, ?_⟩
  · intro v hv
    simp [get?_properties_asArray h.nodup] at hv
  · intro v hv
    rw [Rule.asArray, Table.get?_erase_of_ne _ (by decide),
      Table.get?_insert_of_ne _ _ (by decide)] at hv
    exact h.items v hv

theorem Tidy.asObject {node : Fragment} (h : Tidy (some node)) : Tidy (some (Rule.asObject node)) := by
  obtain ⟨hshaped, hchild⟩ := h node rfl
  intro ready hready
  obtain rfl := Option.some.inj hready
  refine ⟨hshaped.asObject, fun s => ?_⟩
  cases s with
  | property name =>
      rw [child?_asObject]
      exact hchild _
  | items =>
      refine wellFormed_items_iff.2 fun v hv => ?_
      exact wellFormed_items_iff.1 (hchild .items) v (get?_items_of_asObject hshaped.nodup hv)

theorem Tidy.asArray {node : Fragment} (h : Tidy (some node)) : Tidy (some (Rule.asArray node)) := by
  obtain ⟨hshaped, hchild⟩ := h node rfl
  intro ready hready
  obtain rfl := Option.some.inj hready
  refine ⟨hshaped.asArray, fun s => ?_⟩
  cases s with
  | property name =>
      rw [child?, fragmentAt?, get?_properties_asArray hshaped.nodup]
      exact wellFormed_none
  | items =>
      rw [child?_asArray]
      exact hchild .items

/-- Without nodes below there is nothing to look after. -/
theorem Shaped.tidy {node : Fragment} (h : Shaped node) (hchild : ∀ s, child? node s = none) :
    Tidy (some node) := by
  intro same hsame
  obtain rfl := Option.some.inj hsame
  refine ⟨h, fun s => ?_⟩
  rw [hchild]
  exact wellFormed_none

theorem tidy_emptyObject : Tidy (some emptyObject) := by
  have hshaped : Shaped emptyObject := by
    refine ⟨by decide, ?_, ?_⟩
    · intro v hv
      obtain rfl := Option.some.inj hv
      exact ⟨[], rfl, List.nodup_nil, by simp⟩
    · simp [emptyObject, Table.get?]
  exact hshaped.tidy fun s => by cases s <;> rfl

theorem tidy_emptyArray : Tidy (some emptyArray) := by
  have hshaped : Shaped emptyArray := by
    refine ⟨by decide, ?_, ?_⟩
    · simp [emptyArray, Table.get?]
    · simp [emptyArray, Table.get?]
  exact hshaped.tidy fun s => by cases s <;> rfl

theorem Tidy.getD {old : Option Fragment} (h : Tidy old) {other : Fragment}
    (hother : Tidy (some other)) : Tidy (some (old.getD other)) := by
  cases old with
  | none => exact hother
  | some node => exact h

/-- A node that was made ready for a step is tidy again. -/
theorem Tidy.prepare {old : Option Fragment} (h : Tidy old) (strict : Bool) (s : Step) :
    Tidy (some (Rule.prepare strict old s)) := by
  cases s with
  | property name => exact ((h.kept strict "object").getD tidy_emptyObject).asObject
  | items => exact ((h.kept strict "array").getD tidy_emptyArray).asArray

theorem Tidy.get?_prepare_items {old : Option Fragment} (h : Tidy old) (strict : Bool) :
    Table.get? (Rule.prepare strict old .items) "properties" = none :=
  get?_properties_asArray (((h.kept strict "array").getD tidy_emptyArray) _ rfl).1.nodup

/-! ### Nodes that got a child -/

/-- Different kinds of children are under different keys. -/
theorem child?_setChild_of_type_ne (node : Fragment) {s t : Step} (below : Fragment)
    (h : s.type ≠ t.type) : child? (setChild node s below) t = child? node t := by
  cases s with
  | property name =>
      cases t with
      | property other => exact absurd rfl h
      | items => exact fragmentAt?_insert_of_ne _ _ (by decide)
  | items =>
      cases t with
      | property other => rw [child?, setChild, fragmentAt?_insert_of_ne _ _ (by decide), child?]
      | items => exact absurd rfl h

theorem wellFormed_child?_setChild {node below : Fragment} (h : ∀ s, WellFormed (child? node s))
    (s : Step) (hbelow : WellFormed (some below)) (t : Step) :
    WellFormed (child? (setChild node s below) t) := by
  by_cases heq : s = t
  · subst heq
    rw [child?_setChild_self]
    exact hbelow
  · by_cases htype : s.type = t.type
    · rw [child?_setChild_of_ne _ _ htype heq]
      exact h t
    · rw [child?_setChild_of_type_ne _ _ htype]
      exact h t

theorem Shaped.entries {node : Fragment} (h : Shaped node) :
    (Table.keys ((fragmentAt? node "properties").getD [])).Nodup ∧
      ∀ e ∈ (fragmentAt? node "properties").getD [], ∃ below, e.2 = .obj below := by
  rw [fragmentAt?]
  cases hv : Table.get? node "properties" with
  | none => exact ⟨List.nodup_nil, by simp⟩
  | some v =>
      obtain ⟨entries, rfl, hnodup, hall⟩ := h.properties v hv
      exact ⟨hnodup, hall⟩

theorem not_hasType_of_hasType {node : Fragment} {type other : String}
    (h : hasType node type = true) (hne : type ≠ other) : hasType node other = false := by
  rw [hasType_iff] at h
  simp [hasType, h, hne]

/-- An object that got a property is as it should be. -/
theorem Shaped.proper_setChild_property {node : Fragment} (h : Shaped node)
    (htype : hasType node "object" = true) (name : String) (below : Fragment) :
    Proper (setChild node (.property name) below) := by
  obtain ⟨hnodup, hall⟩ := h.entries
  have hset := hasType_setChild node (.property name) below
  refine ⟨⟨Table.nodup_keys_insert _ _ h.nodup, ?_, ?_⟩, ⟨"object", by decide, ?_⟩, ?_, ?_⟩
  · intro v hv
    rw [setChild, Table.get?_insert_self] at hv
    obtain rfl := Option.some.inj hv
    refine ⟨_, rfl, Table.nodup_keys_insert _ _ hnodup, fun e he => ?_⟩
    rcases Table.mem_insert he with rfl | hold
    · exact ⟨below, rfl⟩
    · exact hall e hold
  · intro v hv
    rw [setChild, Table.get?_insert_of_ne _ _ (by decide)] at hv
    exact h.items v hv
  · exact hasType_iff.1 ((hset "object").trans htype)
  · intro harray
    simp [hset, not_hasType_of_hasType htype (by decide : "object" ≠ "array")] at harray
  · intro _
    refine ⟨(hset "object").trans htype, fun hempty => ?_⟩
    -- the new property is there
    rw [setChild, Table.get?_insert_self] at hempty
    have hnone := Table.get?_insert_self ((fragmentAt? node "properties").getD []) name (.obj below)
    simp [Value.obj.inj (Option.some.inj hempty)] at hnone

/-- An array that got items is as it should be. -/
theorem Shaped.proper_setChild_items {node : Fragment} (h : Shaped node)
    (htype : hasType node "array" = true) (hproperties : Table.get? node "properties" = none)
    (below : Fragment) : Proper (setChild node .items below) := by
  have hset := hasType_setChild node .items below
  have hnone : Table.get? (setChild node .items below) "properties" = none := by
    rw [setChild, Table.get?_insert_of_ne _ _ (by decide), hproperties]
  have hitems : Table.get? (setChild node .items below) "items" = some (.obj below) :=
    Table.get?_insert_self ..
  refine ⟨⟨Table.nodup_keys_insert _ _ h.nodup, ?_, ?_⟩, ⟨"array", by decide, ?_⟩, ?_, ?_⟩
  · intro v hv
    simp [hnone] at hv
  · intro v hv
    rw [hitems] at hv
    exact ⟨below, (Option.some.inj hv).symm⟩
  · exact hasType_iff.1 ((hset "array").trans htype)
  · intro _
    rw [Table.has, hitems, Option.isSome_some]
  · simp [Table.has, hnone]

theorem Tidy.proper_setChild {old : Option Fragment} (h : Tidy old) (strict : Bool) (s : Step)
    (below : Fragment) : Proper (setChild (Rule.prepare strict old s) s below) := by
  have hshaped := ((h.prepare strict s) _ rfl).1
  have htype := hasType_prepare strict old s
  cases s with
  | property name => exact hshaped.proper_setChild_property htype name below
  | items => exact hshaped.proper_setChild_items htype (h.get?_prepare_items strict) below

/-- **One step of a path**: the node on the way is made ready and gets a child. -/
theorem Tidy.wellFormed_put {place : Option Fragment} (h : Tidy place) {strict : Bool}
    {schema : Fragment} {s : Step} {rest : List Step}
    (hbelow : WellFormed (some (put s.isItems
      ((Rule.kept strict place s.type).bind (child? · s)) schema rest))) :
    WellFormed (some (put strict place schema (s :: rest))) := by
  have hready := h.prepare strict s
  rw [put, child?_prepare _ _ rfl]
  refine WellFormed.of_children (h.proper_setChild strict s _) ?_
  exact wellFormed_child?_setChild (hready _ rfl).2 s hbelow

/-! ### Laying a field over a node -/

theorem Proper.isSet_properties {node : Fragment} (h : Proper node)
    (hhas : Table.has node "properties" = true) : isSet node "properties" = true := by
  obtain ⟨v, hv⟩ := Option.isSome_iff_exists.1 hhas
  obtain ⟨entries, rfl, _⟩ := h.properties v hv
  have hsome := (h.object hhas).2
  rw [isSet, hv]
  cases entries with
  | nil => exact absurd hv hsome
  | cons e rest => rfl

theorem nodup_withItems {old schema : Fragment} (hflat : IsFlat schema)
    (h : (Table.keys old).Nodup) : (Table.keys (withItems old schema)).Nodup := by
  have hmerge : (Table.keys (merge old schema)).Nodup := by
    rw [merge_eq_insertAll old (Table.get?_eq_none_iff.1 hflat.properties)]
    exact Table.nodup_keys_insertAll schema h
  unfold withItems
  split
  · split
    · exact Table.nodup_keys_insert _ _ hmerge
    · exact hmerge
  · exact hmerge

/-- Mending writes a type, or not, and then makes an object, or not. -/
theorem mended_eq_or (node : Fragment) :
    ∃ typed, (typed = node ∨ typed = Table.insert node "type" (.str "object")) ∧
      (mended node = typed ∨ mended node = asObject typed) := by
  unfold mended
  dsimp only
  split
  · refine ⟨_, .inr rfl, ?_⟩
    split
    · exact .inr rfl
    · exact .inl rfl
  · refine ⟨_, .inl rfl, ?_⟩
    split
    · exact .inr rfl
    · exact .inl rfl

/-- Mending repeats no key, and loses items at most. -/
theorem mended_spec {node : Fragment} (h : (Table.keys node).Nodup) :
    (Table.keys (mended node)).Nodup ∧
      ∀ v, Table.get? (mended node) "items" = some v → Table.get? node "items" = some v := by
  obtain ⟨typed, htyped, hmended⟩ := mended_eq_or node
  have hnode : (Table.keys typed).Nodup ∧ Table.get? typed "items" = Table.get? node "items" := by
    rcases htyped with rfl | rfl
    · exact ⟨h, rfl⟩
    · exact ⟨Table.nodup_keys_insert _ _ h, Table.get?_insert_of_ne _ _ (by decide)⟩
  obtain ⟨hnodup, hitems⟩ := hnode
  rcases hmended with hsame | hobject
  · rw [hsame, hitems]
    exact ⟨hnodup, fun _ hv => hv⟩
  · rw [hobject, ← hitems]
    exact ⟨nodup_asObject hnodup, fun _ hv => get?_items_of_asObject hnodup hv⟩

section

variable {schema old : Fragment} (hflat : IsFlat schema)
include hflat

/-- Items are the old ones or those of the field. -/
theorem get?_items_of_placeLeaf (h : (Table.keys old).Nodup) {v : Value}
    (hv : Table.get? (placeLeaf (some old) schema) "items" = some v) :
    Table.get? old "items" = some v ∨ Table.get? schema "items" = some v := by
  rw [placeLeaf_some] at hv
  have hitems := (mended_spec (nodup_withItems hflat h)).2 v hv
  rw [get?_withItems_items hflat, Option.or_eq_some_iff] at hitems
  exact hitems.imp_right And.right

/-- **The end of a path**: a flat schema laid over a node that is as it should be. -/
theorem Proper.placeLeaf (h : Proper old) : Proper (Rule.placeLeaf (some old) schema) := by
  have hproperties := get?_placeLeaf_properties hflat (some old)
  rw [Option.bind_some] at hproperties
  have hshaped : Shaped (Rule.placeLeaf (some old) schema) := by
    refine ⟨?_, ?_, ?_⟩
    · rw [placeLeaf_some]
      exact (mended_spec (nodup_withItems hflat h.nodup)).1
    · rw [hproperties]
      exact h.properties
    · intro v hv
      rcases get?_items_of_placeLeaf hflat h.nodup hv with hold | hnew
      · exact h.items v hold
      · exact ⟨defaultItems, hflat.items v hnew⟩
  by_cases hhas : Table.has old "properties" = true
  · -- there are properties, and they make it an object
    have htype := hasType_placeLeaf_object hflat (h.isSet_properties hhas)
    refine ⟨hshaped, ⟨"object", by decide, hasType_iff.1 htype⟩, ?_, ?_⟩
    · intro harray
      simp [not_hasType_of_hasType htype (by decide : "object" ≠ "array")] at harray
    · intro _
      rw [hproperties]
      exact ⟨htype, (h.object hhas).2⟩
  · -- there are none, and it is what the field says
    have hnone : Table.get? old "properties" = none := by
      rw [Table.has, Bool.not_eq_true, Option.isSome_eq_false_iff, Option.isNone_iff_eq_none] at hhas
      exact hhas
    have htype := hasType_placeLeaf hflat (some old) hnone
    obtain ⟨type, hmem, htyped⟩ := hflat.typed
    refine ⟨hshaped, ⟨type, hmem, hasType_iff.1 ((htype type).trans (hasType_iff.2 htyped))⟩, ?_, ?_⟩
    · intro harray
      rw [htype] at harray
      rw [Table.has, get?_placeLeaf_items hflat (some old) hnone, Option.isSome_or]
      have hitems : (Table.get? schema "items").isSome = true := hflat.array harray
      rw [hitems, Bool.or_true]
    · simp [Table.has, hproperties, hnone]

theorem wellFormed_placeLeaf {existing : Option Fragment} (h : WellFormed existing) :
    WellFormed (some (placeLeaf existing schema)) := by
  cases existing with
  | none => exact hflat.wellFormed
  | some old =>
      refine WellFormed.of_children (h.proper.placeLeaf hflat) fun s => ?_
      cases s with
      | property name =>
          rw [child?_placeLeaf_property hflat]
          exact h.child _
      | items =>
          refine wellFormed_items_iff.2 fun v hv => ?_
          rcases get?_items_of_placeLeaf hflat h.proper.nodup hv with hold | hnew
          · exact wellFormed_items_iff.1 (h.child .items) v hold
          · exact wellFormed_items_iff.1 hflat.wellFormed_items v hnew

/-! ### Placing a field -/

/-- **The whole path**, by induction on its steps. -/
theorem WellFormed.put {place : Option Fragment} (h : WellFormed place) (strict : Bool)
    (path : List Step) : WellFormed (some (Rule.put strict place schema path)) := by
  induction path generalizing strict place with
  | nil =>
      rw [put_nil]
      exact wellFormed_placeLeaf hflat (h.leafBase strict)
  | cons s rest ih =>
      have hbelow := ih ((h.tidy.kept strict s.type).child s) s.isItems
      exact h.tidy.wellFormed_put hbelow

end

/-! ### The whole mapping -/

/-- **The run**: the root is tidy and an object, whatever fields are put into it. -/
theorem tidy_putFields (rules : RuleMap) :
    Tidy (some ((fields rules).foldl putField emptyObject)) ∧
      hasType ((fields rules).foldl putField emptyObject) "object" = true := by
  refine List.foldlRecOn (fields rules) putField
    (motive := fun root => Tidy (some root) ∧ hasType root "object" = true)
    ⟨tidy_emptyObject, rfl⟩ ?_
  intro root hroot f hf
  obtain ⟨name, rest, hpath⟩ := exists_property_of_mem_fields hf
  rw [putField, hpath]
  refine ⟨WellFormed.tidy (hroot.1.wellFormed_put ?_), hasType_put false (some root) f.schema _ rest⟩
  exact WellFormed.put (isFlat_of_mem_fields hf) ((hroot.1.kept false _).child _) _ rest

/-- The list of required properties is no node. -/
theorem Draft.shaped_schema {draft : Draft} (h : Shaped draft.object) : Shaped draft.schema := by
  have hproperties : Table.get? draft.schema "properties" = Table.get? draft.object "properties" := by
    unfold Draft.schema
    dsimp only
    split
    · rfl
    · rfl
  refine ⟨?_, ?_, ?_⟩
  · unfold Draft.schema
    dsimp only
    split
    · show ["type", "properties"].Nodup
      decide
    · show ["type", "properties", "required"].Nodup
      decide
  · rw [hproperties]
    exact h.properties
  · intro v hv
    unfold Draft.schema at hv
    dsimp only at hv
    split at hv
    · simp [Table.get?] at hv
    · simp [Table.get?] at hv

/-- The schema of an object, with everything below it. -/
structure IsObjectSchema (root : Fragment) : Prop where
  /-- The root is an object. -/
  object : hasType root "object" = true
  /-- Its properties are nodes. -/
  shaped : Shaped root
  /-- Every node below it is as it should be. -/
  below : ∀ p ≠ [], ∀ node, nodeAt? (some root) p = some node → Proper node

/-- **Mapped schemas are well formed**, whatever the rules are. -/
theorem objectSchema_wellFormed (rules : RuleMap) : IsObjectSchema (objectSchema rules).1 := by
  obtain ⟨htidy, _⟩ := tidy_putFields rules
  obtain ⟨hshaped, hchild⟩ := htidy _ rfl
  refine ⟨hasType_objectSchema rules, ?_, ?_⟩
  · have hobject : (rules.foldl Draft.addField {}).object =
        (fields rules).foldl putField emptyObject := object_addFields rules {}
    rw [← hobject] at hshaped
    exact Draft.shaped_schema hshaped
  · intro p hp node hnode
    rw [nodeAt?_objectSchema rules hp] at hnode
    cases p with
    | nil => exact absurd rfl hp
    | cons s rest => exact hchild s rest node hnode

end RouteDoc.Rule
