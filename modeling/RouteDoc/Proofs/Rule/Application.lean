import RouteDoc.Proofs.Rule.FieldSchema
/-!
# RouteDoc.Proofs.Rule.Application

**Rules only add.** The rules of a field are applied from left to right, and each writes entries over
the schema before it (`Writes`). So a longer list of rules has the keys of a shorter one, in the same
places, and what cannot be taken back stays: null that is allowed once is allowed for good
(`grown_foldl`).

A rule that says nothing about values can be left out wherever it stands (`Item.isIdle`): it changes
neither the schema nor the diagnostics of the rules that fail (`applyItems_filter`).
-/

namespace RouteDoc

namespace Rule

/-! ### What stays -/

/-- What further rules leave of a schema and its diagnostics. -/
structure Grown (before after : Fragment × List Diagnostic) : Prop where
  /-- Entries are written over the schema. -/
  written : ∃ new, after.1 = Table.insertAll before.1 new
  /-- Keys keep their places, and new ones come behind them. -/
  keys : Table.keys before.1 <+: Table.keys after.1
  /-- Null stays allowed. -/
  nullable : Table.get? before.1 "nullable" = some (.bool true) →
    Table.get? after.1 "nullable" = some (.bool true)
  diagnostics : before.2 <+: after.2

theorem Grown.refl (state : Fragment × List Diagnostic) : Grown state state where
  written := ⟨[], rfl⟩
  keys := List.prefix_refl _
  nullable h := h
  diagnostics := List.prefix_refl _

theorem Grown.trans {s t u : Fragment × List Diagnostic} (h : Grown s t) (h' : Grown t u) :
    Grown s u where
  written := by
    obtain ⟨new, hnew⟩ := h.written
    obtain ⟨more, hmore⟩ := h'.written
    exact ⟨new ++ more, by rw [hmore, hnew, Table.insertAll_append]⟩
  keys := h.keys.trans h'.keys
  nullable hn := h'.nullable (h.nullable hn)
  diagnostics := h.diagnostics.trans h'.diagnostics

/-- What is written about null is that it is allowed. -/
theorem Writes.nullable {schema result : Fragment} (h : Writes schema result)
    (hschema : ∀ v, Table.get? schema "nullable" = some v → v = .bool true) :
    ∀ v, Table.get? result "nullable" = some v → v = .bool true := by
  obtain ⟨new, hnew, rfl⟩ := h
  intro v hv
  rcases Table.mem_of_get?_insertAll hv with hwritten | hkept
  · exact hnew.nullable _ hwritten rfl
  · exact hschema v hkept

theorem grown_of_writes {before after : Fragment × List Diagnostic}
    (h : Writes before.1 after.1) (hdiagnostics : before.2 <+: after.2) : Grown before after := by
  obtain ⟨new, hnew, hafter⟩ := h
  refine ⟨⟨new, hafter⟩, ?_, fun hn => ?_, hdiagnostics⟩
  · rw [hafter]
    exact Table.keys_isPrefix_insertAll before.1 new
  · -- the key is still there, and nothing else is written under it
    have hkey : "nullable" ∈ Table.keys after.1 := by
      rw [hafter, Table.mem_keys_insertAll]
      exact .inl (Table.mem_keys_iff.2 ⟨_, hn⟩)
    obtain ⟨v, hv⟩ := Table.mem_keys_iff.1 hkey
    have htrue : v = .bool true := by
      refine Writes.nullable ⟨new, hnew, hafter⟩ (fun w hw => ?_) v hv
      exact (Option.some.inj (hn.symm.trans hw)).symm
    rw [hv, htrue]

/-- **The step.** A rule that fails leaves a diagnostic and the schema as it is. -/
theorem grown_applyItem (state : Fragment × List Diagnostic) (i : Item) :
    Grown state (applyItem state i) := by
  refine grown_of_writes (writes_applyItem state i) ?_
  unfold applyItem
  split
  · exact List.prefix_refl _
  · exact List.prefix_append _ _

theorem grown_foldl (state : Fragment × List Diagnostic) (items : List Item) :
    Grown state (items.foldl applyItem state) := by
  induction items generalizing state with
  | nil => exact Grown.refl state
  | cons i rest ih => exact (grown_applyItem state i).trans (ih _)

/-! ### What every schema of a field is -/

/-- A schema with one of six types, whose items are there when it needs them. -/
structure IsTyped (schema : Fragment) : Prop where
  typed : ∃ type ∈ schemaTypes, Table.get? schema "type" = some (.str type)
  array : hasType schema "array" = true → Table.has schema "items" = true
  nullable : ∀ v, Table.get? schema "nullable" = some v → v = .bool true

theorem isTyped_applyItems (items : List Item) : IsTyped (applyItems items).1 := by
  have hwrites : Writes plainField (applyItems items).1 := writes_applyItems items (plainField, [])
  have hflat := isFlat_plainField.writes hwrites
  refine ⟨hflat.typed, hflat.array, hwrites.nullable fun v hv => ?_⟩
  simp [plainField, Table.get?] at hv

/-! ### Rules that do nothing -/

/-- Whether a rule says nothing about values: a token that is not known, or an object that only
looks elsewhere. -/
def Item.isIdle : Item → Bool
  | .token t => !Table.has tokenEffects t.name
  | .object o => o.kind ∈ [ObjectKind.noneOf, .unique, .exists, .requiredIf]

theorem applyItem_of_isIdle {i : Item} (h : i.isIdle = true)
    (state : Fragment × List Diagnostic) : applyItem state i = state := by
  cases i with
  | token t =>
      have hnone : Table.get? tokenEffects t.name = none := by
        simpa [Item.isIdle, Table.has] using h
      simp [applyItem, Item.apply, Token.apply, hnone]
  | object o =>
      have happly : o.apply state.1 = .ok state.1 := by
        unfold Object.apply
        cases hkind : o.kind <;> simp [Item.isIdle, hkind] at h ⊢
      simp [applyItem, Item.apply, happly]

theorem applyItems_filter (items : List Item) :
    applyItems (items.filter fun i => !i.isIdle) = applyItems items := by
  unfold applyItems
  rw [List.foldl_filter]
  congr 1
  funext state i
  split
  · rfl
  · rename_i h
    exact (applyItem_of_isIdle (by simpa using h) state).symm

/-! ### All together -/

theorem fieldSchema_list (items : List Item) :
    (Expr.list (items.map .item)).fieldSchema = .ok (applyItems items) := by
  have hitems : (items.map Entry.item).filterMap Entry.item? = items := by
    rw [List.filterMap_map]
    exact List.filterMap_some
  simp [Expr.fieldSchema, Expr.items, hitems, Except.map]

/-- **Rules are merged from left to right, and only add.** Whatever tokens and rule objects a list
holds, further ones keep its keys in their places and do not take null back; the schema always has
one of six types, with items when it is an array; and rules that say nothing about values can be left
out without a trace, even among rules that fail. -/
theorem applyItems_monotone :
    (∀ items, (Expr.list (items.map .item)).fieldSchema = .ok (applyItems items)) ∧
    (∀ xs ys, applyItems (xs ++ ys) = ys.foldl applyItem (applyItems xs) ∧
      Grown (applyItems xs) (applyItems (xs ++ ys))) ∧
    (∀ items, IsTyped (applyItems items).1) ∧
    ∀ items, applyItems (items.filter fun i => !i.isIdle) = applyItems items := by
  refine ⟨fieldSchema_list, fun xs ys => ?_, isTyped_applyItems, applyItems_filter⟩
  have happend : applyItems (xs ++ ys) = ys.foldl applyItem (applyItems xs) :=
    List.foldl_append
  refine ⟨happend, ?_⟩
  rw [happend]
  exact grown_foldl (applyItems xs) ys

-- The values of the first rule are no list, so it fails; the others are applied all the same.
example : (applyItems [.object { kind := .oneOf, params := [("values", .int 5)] },
    .object { kind := .unique }, .token ⟨"nullable", none⟩, .token ⟨"integer", none⟩]).1 =
      [("type", .str "integer"), ("nullable", .bool true)] := by
  decide

end Rule

end RouteDoc
