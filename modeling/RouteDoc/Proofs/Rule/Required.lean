import Mathlib.Data.List.Nodup
import RouteDoc.Proofs.Rule.Nodes
/-!
# RouteDoc.Proofs.Rule.Required

**Which required fields are listed under the name of their property.** A field is placed at its
first segment that is not empty (`FieldName.property?`), and listed by what stands before the first
dot and the first star of its name (`topLevelName`). The two agree unless the name starts with a dot
or has a star in its first segment (`topLevelName_eq`).

`Collected` is the invariant of a draft: what its properties and its list hold, told by the fields
added so far. `required_iff` says when the names in the list are properties and when the list is
complete.
-/

namespace RouteDoc

namespace Rule

open RouteDoc.Text

/-- The property at the top that a field is placed in or below. -/
def FieldName.property? (f : FieldName) : Option String := (segments f.path).head?

/-- The rules of a field make it required, and it has its place in or below a property. -/
def Requires (e : FieldName × Expr) (property : String) : Prop :=
  e.1.property? = some property ∧ isRequired (mapField e.1 e.2).items = true

/-- A field has a name put into the list of required properties. -/
def Lists (e : FieldName × Expr) (name : String) : Prop :=
  ∃ property, Requires e property ∧ topLevelName e.1.path = name ∧ name ≠ ""

/-! ### The two ways to find the property of a field -/

/-- Nothing stands before the first dot of a name that starts with it. -/
theorem before_dot_eq_empty_iff {s : String} :
    before '.' s = "" ↔ s = "" ∨ startsWith s "." = true := by
  have hdot : ".".toList = ['.'] := rfl
  rw [before, startsWith, List.isPrefixOf_iff_prefix, hdot, ← String.toList_inj,
    String.toList_ofList, ← String.toList_eq_nil_iff]
  cases s.toList with
  | nil => simp
  | cons c rest => simp [List.takeWhile_cons, List.cons_prefix_cons, eq_comm (a := c)]

/-- Any other name that has a property has it before its first dot. -/
theorem before_dot_eq_property {f : FieldName} {p : String} (hp : f.property? = some p)
    (h : startsWith f.path "." = false) : before '.' f.path = p := by
  have hne : before '.' f.path ≠ "" := by
    intro hempty
    rcases before_dot_eq_empty_iff.1 hempty with hpath | hdot
    · have hnone : segments "" = [] := by decide
      rw [FieldName.property?, hpath, hnone] at hp
      cases hp
    · rw [hdot] at h
      cases h
  obtain ⟨parts, hparts⟩ := List.head?_eq_some_iff.1 (head?_split '.' f.path)
  rw [FieldName.property?, segments, hparts, List.filter_cons, if_pos (by simpa using hne)] at hp
  exact Option.some.inj hp

/-- **Where the two agree**: the name that is listed for a field is its property up to the first
star, and no name at all for a field that starts with a dot. -/
theorem topLevelName_eq {f : FieldName} {p : String} (hp : f.property? = some p) :
    topLevelName f.path = if startsWith f.path "." = true then "" else before '*' p := by
  unfold topLevelName
  split
  · rename_i h
    rw [before_dot_eq_empty_iff.2 (.inr h)]
    rfl
  · rename_i h
    rw [before_dot_eq_property hp (Bool.eq_false_iff.2 h)]

theorem lists_iff {e : FieldName × Expr} {name : String} :
    Lists e name ↔ ∃ p, Requires e p ∧ startsWith e.1.path "." = false ∧
      before '*' p = name ∧ name ≠ "" := by
  refine exists_congr fun p => and_congr_right fun hp => ?_
  rw [topLevelName_eq hp.1]
  cases startsWith e.1.path "." with
  | false => simp
  | true =>
      simp only [if_true, Bool.true_eq_false, false_and, iff_false, not_and, not_not]
      exact fun h => h.symm

theorem ne_empty_of_property? {f : FieldName} {p : String} (hp : f.property? = some p) : p ≠ "" := by
  have hmem : p ∈ segments f.path := List.mem_of_mem_head? hp
  simpa using (List.mem_filter.1 hmem).2

/-! ### What a draft holds -/

/-- The properties and the list of a draft, told by the fields that it is made of. -/
structure Collected (rules : RuleMap) (draft : Draft) : Prop where
  /-- The properties are those of the fields. -/
  mem_properties : ∀ name, name ∈ Table.keys draft.properties ↔
    ∃ e ∈ rules, e.1.property? = some name
  /-- The list holds what required fields put there. -/
  mem_required : ∀ name, name ∈ draft.required ↔ ∃ e ∈ rules, Lists e name
  /-- No name is listed twice. -/
  nodup : draft.required.Nodup

theorem collected_nil : Collected [] {} where
  mem_properties := by simp
  mem_required := by simp
  nodup := List.nodup_nil

theorem mem_keys_addField {draft : Draft} {e : FieldName × Expr} {name : String} :
    name ∈ Table.keys (draft.addField e).properties ↔
      name ∈ Table.keys draft.properties ∨ e.1.property? = some name := by
  unfold Draft.addField FieldName.property?
  cases segments e.1.path with
  | nil => simp
  | cons head rest =>
      have hplace := (placeAt_eq_put_and_placeItems rest (mapField e.1 e.2).schema).1
        draft.properties head
      simp only [List.isEmpty_cons, Bool.false_eq_true, if_false, place, hplace,
        Table.mem_keys_insert, List.head?_cons, Option.some.injEq]
      rw [or_comm, eq_comm]

/-- Adding a field leaves the list as it is, or appends the one name that the field lists. -/
theorem required_addField (draft : Draft) (e : FieldName × Expr) :
    ((draft.addField e).required = draft.required ∧
      ∀ name, Lists e name → name ∈ draft.required) ∨
    ∃ name, (draft.addField e).required = draft.required ++ [name] ∧ name ∉ draft.required ∧
      ∀ other, Lists e other ↔ other = name := by
  have hlists : ∀ name, Lists e name ↔ segments e.1.path ≠ [] ∧
      isRequired (mapField e.1 e.2).items = true ∧ topLevelName e.1.path = name ∧ name ≠ "" := by
    intro name
    unfold Lists Requires FieldName.property?
    cases segments e.1.path <;> simp
  unfold Draft.addField
  dsimp only
  by_cases hpath : segments e.1.path = []
  · refine .inl ⟨by simp [hpath], fun name hname => absurd hpath ((hlists name).1 hname).1⟩
  rw [if_neg (by simpa using hpath)]
  split
  · rename_i h
    obtain ⟨hne, hrequired, hnew⟩ := h
    refine .inr ⟨_, rfl, hnew, fun other => ?_⟩
    rw [hlists]
    constructor
    · exact fun h => h.2.2.1.symm
    · rintro rfl
      exact ⟨hpath, hrequired, rfl, hne⟩
  · rename_i h
    refine .inl ⟨rfl, fun name hname => ?_⟩
    obtain ⟨-, hrequired, rfl, hne⟩ := (hlists name).1 hname
    exact Classical.byContradiction fun hnew => h ⟨hne, hrequired, hnew⟩

/-- One field more. -/
theorem Collected.addField {rules : RuleMap} {draft : Draft} (h : Collected rules draft)
    (e : FieldName × Expr) : Collected (rules ++ [e]) (draft.addField e) where
  mem_properties := by
    intro name
    rw [mem_keys_addField, h.mem_properties]
    simp [or_and_right, exists_or]
  mem_required := by
    intro name
    simp only [List.mem_append, List.mem_singleton, or_and_right, exists_or, exists_eq_left]
    rw [← h.mem_required]
    rcases required_addField draft e with ⟨hsame, hold⟩ | ⟨new, happend, -, hnew⟩
    · rw [hsame]
      exact ⟨.inl, fun hname => hname.elim id (hold name)⟩
    · rw [happend, List.mem_append, List.mem_singleton, hnew]
  nodup := by
    rcases required_addField draft e with ⟨hsame, -⟩ | ⟨new, happend, hout, -⟩
    · rw [hsame]
      exact h.nodup
    · rw [happend, List.nodup_append]
      exact ⟨h.nodup, List.nodup_singleton _, fun name hname other hother =>
        List.mem_singleton.1 hother ▸ fun heq => hout (heq ▸ hname)⟩

/-- Any number of fields. -/
theorem Collected.foldl {earlier : RuleMap} {draft : Draft} (h : Collected earlier draft)
    (rules : RuleMap) : Collected (earlier ++ rules) (rules.foldl Draft.addField draft) := by
  induction rules generalizing earlier draft with
  | nil => simpa using h
  | cons e rest ih => simpa using ih (h.addField e)

theorem get?_schema_properties (draft : Draft) :
    Table.get? draft.schema "properties" = some (.obj draft.properties) := by
  unfold Draft.schema
  dsimp only
  split <;> rfl

theorem get?_schema_required (draft : Draft) :
    Table.get? draft.schema "required" =
      if draft.required = [] then none else some (.ofStrings draft.required) := by
  unfold Draft.schema
  cases draft.required <;> rfl

/-! ### The list of a mapping -/

/-- The names in the list are properties, unless some required field has a star in its property
and nothing is placed where the property would be without it. -/
theorem Collected.required_subset_iff {rules : RuleMap} {draft : Draft}
    (h : Collected rules draft) :
    (∀ name ∈ draft.required, name ∈ Table.keys draft.properties) ↔
      ∀ e ∈ rules, ∀ p, Requires e p → startsWith e.1.path "." = false → before '*' p ≠ "" →
        ∃ e' ∈ rules, e'.1.property? = some (before '*' p) := by
  simp only [h.mem_required, h.mem_properties, lists_iff]
  constructor
  · exact fun hall e he p hp hdot hne => hall _ ⟨e, he, p, hp, hdot, rfl, hne⟩
  · rintro hall name ⟨e, he, p, hp, hdot, rfl, hne⟩
    exact hall e he p hp hdot hne

/-- The list is complete when no required property has a star and each comes from a field that does
not start with a dot. -/
theorem Collected.required_complete_iff {rules : RuleMap} {draft : Draft}
    (h : Collected rules draft) :
    (∀ e ∈ rules, ∀ p, Requires e p → p ∈ draft.required) ↔
      ∀ e ∈ rules, ∀ p, Requires e p → '*' ∉ p.toList ∧
        ∃ e' ∈ rules, Requires e' p ∧ startsWith e'.1.path "." = false := by
  simp only [h.mem_required, lists_iff]
  constructor
  · intro hall
    have hstar : ∀ e ∈ rules, ∀ p, Requires e p → '*' ∉ p.toList := by
      intro e he p hp
      obtain ⟨-, -, q, -, -, rfl, -⟩ := hall e he p hp
      exact not_mem_before '*' q
    intro e he p hp
    obtain ⟨e', he', q, hq, hdot, hqp, -⟩ := hall e he p hp
    -- a field that lists the name has it as its own property, since that has no star either
    obtain rfl : q = p := (before_eq_self_iff.2 (hstar e' he' q hq)).symm.trans hqp
    exact ⟨hstar e he q hp, e', he', hq, hdot⟩
  · intro hall e he p hp
    obtain ⟨hstar, e', he', hp', hdot⟩ := hall e he p hp
    exact ⟨e', he', p, hp', hdot, before_eq_self_iff.2 hstar, ne_empty_of_property? hp.1⟩

/-- **The list of required properties**, of any rule map: it is there exactly when some name is
listed, names none twice, and its names are properties and those of all required fields exactly
under the conditions given. -/
theorem required_iff (rules : RuleMap) :
    ∃ properties required,
      Table.get? (objectSchema rules).1 "properties" = some (.obj properties) ∧
      Table.get? (objectSchema rules).1 "required" =
        (if required = [] then none else some (.ofStrings required)) ∧
      required.Nodup ∧
      ((∀ name ∈ required, name ∈ Table.keys properties) ↔
        ∀ e ∈ rules, ∀ p, Requires e p → startsWith e.1.path "." = false → before '*' p ≠ "" →
          ∃ e' ∈ rules, e'.1.property? = some (before '*' p)) ∧
      ((∀ e ∈ rules, ∀ p, Requires e p → p ∈ required) ↔
        ∀ e ∈ rules, ∀ p, Requires e p → '*' ∉ p.toList ∧
          ∃ e' ∈ rules, Requires e' p ∧ startsWith e'.1.path "." = false) := by
  have hcollected : Collected rules (rules.foldl Draft.addField {}) := collected_nil.foldl rules
  exact ⟨_, _, get?_schema_properties _, get?_schema_required _, hcollected.nodup,
    hcollected.required_subset_iff, hcollected.required_complete_iff⟩

/-- A star behind the name of a property: the list holds a name that is no property. -/
example : (objectSchema [(.text "a*", .text "required")]).1 =
    [("type", .str "object"), ("properties", .obj [("a*", .obj [("type", .str "string")])]),
      ("required", .ofStrings ["a"])] := by decide +kernel

end Rule

end RouteDoc
