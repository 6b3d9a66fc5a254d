import RouteDoc.Proofs.Rule.FieldSchema
import RouteDoc.Proofs.Rule.Nodes
/-!
# RouteDoc.Proofs.Rule.Leaf

**What is left of a node when a field is laid over it.** The schema of a field is flat
(`isFlat_mapField`), so laying it over a node writes its entries there; afterwards the node may be
mended so that its children stay.

* The properties are those from before, always (`get?_placeLeaf_properties`).
* Items are those from before, or the ones of the field when there were none.
* The type is the one of the field. Only where there are properties it is mended
  (`hasType_placeLeaf_object`): nothing mends the type of a node that has items.
-/

namespace RouteDoc.Rule

open RouteDoc.Schema

/-! ### Merging a flat schema -/

/-- Without properties there is nothing to merge by name. -/
theorem merge_eq_insertAll {new : Fragment} (base : Fragment) (h : "properties" ∉ Table.keys new) :
    merge base new = Table.insertAll base new := by
  induction new generalizing base with
  | nil => rfl
  | cons e rest ih =>
      obtain ⟨key, v⟩ := e
      simp only [Table.keys, List.map_cons, List.mem_cons, not_or] at h
      have hentry : mergeEntry base key v = Table.insert base key v := by
        cases v with
        | obj new =>
            rw [mergeEntry]
            split
            · rw [if_neg (Ne.symm h.1)]
            · rfl
        | _ => rfl
      rw [merge, hentry, Table.insertAll_cons]
      exact ih _ h.2

/-! ### The two steps of laying a schema over a node -/

/-- The schema over the old node, with the items of the old node. -/
def withItems (old schema : Fragment) : Fragment :=
  match Table.get? old "items" with
  | some items =>
      if Table.get? schema "items" = some (.obj defaultItems) then
        Table.insert (merge old schema) "items" items
      else merge old schema
  | none => merge old schema

/-- A node with properties becomes one that can have them. -/
def mended (node : Fragment) : Fragment :=
  let node :=
    if isSet node "properties" && !(hasType node "object" || hasType node "array") then
      Table.insert node "type" (.str "object")
    else node
  if hasType node "array" && isSet node "properties" then asObject node else node

theorem placeLeaf_some (old schema : Fragment) :
    placeLeaf (some old) schema = mended (withItems old schema) := rfl

theorem mended_of_not_isSet {node : Fragment} (h : isSet node "properties" = false) :
    mended node = node := by
  simp [mended, h]

theorem isSet_insert_type (node : Fragment) (v : Value) :
    isSet (Table.insert node "type" v) "properties" = isSet node "properties" := by
  rw [isSet, isSet, Table.get?_insert_of_ne _ _ (by decide)]

/-- The properties of a node make it an object. -/
theorem hasType_mended {node : Fragment} (h : isSet node "properties" = true) :
    hasType (mended node) "object" = true := by
  unfold mended
  dsimp only
  split
  · -- the type was neither, and is written
    rw [isSet_insert_type]
    split
    · exact hasType_asObject _
    · rw [hasType_iff, Table.get?_insert_self]
  · rename_i htype
    split
    · exact hasType_asObject _
    · rename_i harray
      simp only [h, Bool.true_and, Bool.and_true, Bool.not_eq_true', Bool.not_eq_false,
        Bool.not_eq_true, Bool.or_eq_true] at htype harray
      exact htype.resolve_right (by simp [harray])

theorem get?_mended_properties (node : Fragment) :
    Table.get? (mended node) "properties" = Table.get? node "properties" := by
  have hobject : ∀ node : Fragment, isSet node "properties" = true →
      Table.get? (asObject node) "properties" = Table.get? node "properties" := by
    intro node hset
    rw [get?_asObject_properties]
    cases hv : Table.get? node "properties" with
    | none => simp [isSet, hv] at hset
    | some v => rfl
  unfold mended
  dsimp only
  split
  · rename_i h
    rw [Bool.and_eq_true] at h
    split
    · rw [hobject _ (by rw [isSet_insert_type]; exact h.1), Table.get?_insert_of_ne _ _ (by decide)]
    · rw [Table.get?_insert_of_ne _ _ (by decide)]
  · split
    · rename_i h
      rw [Bool.and_eq_true] at h
      exact hobject _ h.2
    · rfl

/-! ### The node afterwards -/

section

variable {schema : Fragment} (hflat : IsFlat schema) (existing : Option Fragment)
include hflat

theorem get?_merge (old : Fragment) (key : String) :
    Table.get? (merge old schema) key = (Table.get? schema key).or (Table.get? old key) := by
  rw [merge_eq_insertAll old (Table.get?_eq_none_iff.1 hflat.properties),
    Table.get?_insertAll _ hflat.nodup]

theorem get?_withItems (old : Fragment) {key : String} (h : key ≠ "items") :
    Table.get? (withItems old schema) key = (Table.get? schema key).or (Table.get? old key) := by
  rw [← get?_merge hflat, withItems]
  split
  · split
    · rw [Table.get?_insert_of_ne _ _ (Ne.symm h)]
    · rfl
  · rfl

theorem get?_withItems_items (old : Fragment) :
    Table.get? (withItems old schema) "items" =
      (Table.get? old "items").or (Table.get? schema "items") := by
  rw [withItems]
  split
  · rename_i items hitems
    split
    · rw [Table.get?_insert_self, hitems, Option.some_or]
    · rename_i hschema
      -- a flat schema has no other items
      have hnone : Table.get? schema "items" = none := by
        cases hv : Table.get? schema "items" with
        | none => rfl
        | some v => exact absurd (hflat.items v hv ▸ hv) hschema
      rw [get?_merge hflat, hnone, hitems]
      rfl
  · rename_i hitems
    rw [get?_merge hflat, hitems, Option.or_none, Option.none_or]

/-- The properties of a node stay as they are. -/
theorem get?_placeLeaf_properties :
    Table.get? (placeLeaf existing schema) "properties" =
      existing.bind (Table.get? · "properties") := by
  cases existing with
  | none => exact hflat.properties
  | some old =>
      rw [placeLeaf_some, get?_mended_properties, get?_withItems hflat _ (by decide),
        hflat.properties]
      rfl

theorem isSet_withItems (old : Fragment) :
    isSet (withItems old schema) "properties" = isSet old "properties" := by
  rw [isSet, isSet, get?_withItems hflat _ (by decide), hflat.properties, Option.none_or]

/-- Where there are properties, the node is an object afterwards, whatever the field says. -/
theorem hasType_placeLeaf_object {old : Fragment} (h : isSet old "properties" = true) :
    hasType (placeLeaf (some old) schema) "object" = true := by
  rw [placeLeaf_some]
  exact hasType_mended (by rw [isSet_withItems hflat, h])

/-- Where there are no properties, the type is the one of the field. -/
theorem hasType_placeLeaf (h : existing.bind (Table.get? · "properties") = none) (type : String) :
    hasType (placeLeaf existing schema) type = hasType schema type := by
  cases existing with
  | none => rfl
  | some old =>
      have hset : isSet old "properties" = false := by
        rw [Option.bind_some] at h
        rw [isSet, h]
      obtain ⟨own, -, hown⟩ := hflat.typed
      rw [placeLeaf_some, mended_of_not_isSet (by rw [isSet_withItems hflat, hset]), hasType, hasType,
        get?_withItems hflat _ (by decide), hown, Option.some_or]

/-- Items are those from before, or else the ones of the field. -/
theorem get?_placeLeaf_items (h : existing.bind (Table.get? · "properties") = none) :
    Table.get? (placeLeaf existing schema) "items" =
      (existing.bind (Table.get? · "items")).or (Table.get? schema "items") := by
  cases existing with
  | none => rfl
  | some old =>
      have hset : isSet old "properties" = false := by
        rw [Option.bind_some] at h
        rw [isSet, h]
      rw [placeLeaf_some, mended_of_not_isSet (by rw [isSet_withItems hflat, hset]),
        get?_withItems_items hflat]
      rfl

theorem child?_placeLeaf_property (name : String) :
    child? (placeLeaf existing schema) (.property name) =
      existing.bind (child? · (.property name)) := by
  simp only [child?, fragmentAt?, get?_placeLeaf_properties hflat]
  cases existing <;> rfl

theorem child?_placeLeaf_items (h : existing.bind (Table.get? · "properties") = none)
    (hitems : ∀ v, existing.bind (Table.get? · "items") = some v → ∃ below, v = .obj below) :
    child? (placeLeaf existing schema) .items =
      (existing.bind (child? · .items)).or (fragmentAt? schema "items") := by
  have hchild : existing.bind (child? · .items) =
      (existing.bind (Table.get? · "items")).bind Value.entries? := by
    cases existing <;> rfl
  rw [hchild, child?, fragmentAt?, fragmentAt?, get?_placeLeaf_items hflat _ h]
  cases hv : existing.bind (Table.get? · "items") with
  | none => rfl
  | some v =>
      obtain ⟨below, rfl⟩ := hitems v hv
      rfl

end

/-- The schemas of the fields of a rule map are flat. -/
theorem isFlat_of_mem_fields {rules : RuleMap} {f : Field} (h : f ∈ fields rules) :
    IsFlat f.schema := by
  obtain ⟨e, _, he⟩ := List.mem_filterMap.1 h
  unfold Field.of? at he
  split at he
  · simp at he
  · obtain rfl := Option.some.inj he
    exact isFlat_mapField _ _

/-! ### The end of a path -/

theorem child?_defaultItems (s : Step) : child? defaultItems s = none := by
  cases s <;> rfl

/-- What a schema is laid over: nothing in the place of unknown items. -/
def leafBase (strict : Bool) (old : Option Fragment) : Option Fragment :=
  if strict then old.filter (· ≠ defaultItems) else old

theorem put_nil (strict : Bool) (old : Option Fragment) (schema : Fragment) :
    put strict old schema [] = placeLeaf (leafBase strict old) schema := rfl

theorem eq_of_leafBase {strict : Bool} {old : Option Fragment} {node : Fragment}
    (hb : leafBase strict old = some node) : old = some node := by
  unfold leafBase at hb
  split at hb
  · exact (Option.filter_eq_some_iff.1 hb).1
  · exact hb

/-- Unknown items have no children, so passing over them loses none. -/
theorem bind_leafBase (strict : Bool) (old : Option Fragment) (s : Step) :
    (leafBase strict old).bind (child? · s) = old.bind (child? · s) := by
  cases old with
  | none => cases strict <;> rfl
  | some node =>
      unfold leafBase
      split
      · by_cases hd : node = defaultItems
        · subst hd
          rw [Option.bind_some, child?_defaultItems, Option.filter_some_neg (by simp)]
          rfl
        · rw [Option.filter_some_pos (by simp [hd])]
      · rfl

/-- The items that a field brings along. -/
def ownItems (schema : Fragment) (s : Step) : Option Fragment :=
  if s = .items then fragmentAt? schema "items" else none

theorem eq_defaultItems_of_ownItems {schema : Fragment} (hflat : IsFlat schema) {s : Step}
    {below : Fragment} (hb : ownItems schema s = some below) : below = defaultItems := by
  unfold ownItems at hb
  split at hb
  · obtain ⟨v, hv, hbelow⟩ := Option.bind_eq_some_iff.1 hb
    rw [hflat.items v hv] at hbelow
    exact (Option.some.inj hbelow).symm
  · simp at hb

/-- Below the items that a field brings along there is nothing. -/
theorem nodeAt?_or_ownItems {schema : Fragment} (hflat : IsFlat schema) (old : Option Fragment)
    (s : Step) {p : List Step} (hp : p ≠ []) :
    nodeAt? (old.or (ownItems schema s)) p = nodeAt? old p := by
  cases old with
  | some node => rfl
  | none =>
      rw [Option.none_or, nodeAt?_none]
      cases ho : ownItems schema s with
      | none => exact nodeAt?_none p
      | some below =>
          rw [eq_defaultItems_of_ownItems hflat ho]
          cases p with
          | nil => exact absurd rfl hp
          | cons t rest => rw [nodeAt?, Option.bind_some, child?_defaultItems, nodeAt?_none]

theorem isSome_ownItems {schema : Fragment} (hflat : IsFlat schema) (s : Step) :
    (ownItems schema s).isSome = true ↔ s = .items ∧ Table.has schema "items" = true := by
  unfold ownItems
  split
  · rename_i hs
    rw [fragmentAt?, Table.has]
    cases hv : Table.get? schema "items" with
    | none => simp
    | some v =>
        rw [hflat.items v hv]
        simp [hs, Value.entries?]
  · rename_i hs
    simp [hs]

/-- A node with a property has properties. -/
theorem isSet_of_child? {node : Fragment} {name : String}
    (h : (child? node (.property name)).isSome = true) : isSet node "properties" = true := by
  rw [child?, fragmentAt?] at h
  rw [isSet]
  cases hv : Table.get? node "properties" with
  | none => simp [hv] at h
  | some v =>
      cases v with
      | obj entries =>
          cases entries with
          | nil => simp [hv, fragmentAt?, Value.entries?] at h
          | cons e rest => rfl
      | _ => simp [hv, Value.entries?] at h

end RouteDoc.Rule
