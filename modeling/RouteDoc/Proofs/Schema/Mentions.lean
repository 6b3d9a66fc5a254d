import RouteDoc.Schema.References
/-!
# RouteDoc.Proofs.Schema.Mentions

**Every name under a `$ref`, wherever it stands.** `mentions` looks everywhere, and `hidden` at what
`references` leaves out: what is below a `$ref` that is no text. Together with the references these
are all mentions (`mem_mentions_iff`).

The other lemmas say how the references of an object change when an entry is written.
-/

namespace RouteDoc.Schema

mutual

/-- The names under `$ref` at any depth of a value. -/
def mentions (base : String) : Value → List String
  | .obj entries => ownReference base entries ++ entryMentions base entries
  | .arr items => itemMentions base items
  | _ => []

/-- The names under `$ref` inside the values of entries. -/
def entryMentions (base : String) : List (String × Value) → List String
  | [] => []
  | (_, v) :: rest => mentions base v ++ entryMentions base rest

/-- The names under `$ref` inside items. -/
def itemMentions (base : String) : List Value → List String
  | [] => []
  | v :: rest => mentions base v ++ itemMentions base rest

end

mutual

/-- The mentions below a `$ref`. -/
def hidden (base : String) : Value → List String
  | .obj entries => entryHidden base entries
  | .arr items => itemHidden base items
  | _ => []

/-- The mentions below a `$ref` that is among entries, or inside their values. -/
def entryHidden (base : String) : List (String × Value) → List String
  | [] => []
  | (key, v) :: rest =>
      (if key = "$ref" then mentions base v else hidden base v) ++ entryHidden base rest

/-- The mentions below a `$ref` inside items. -/
def itemHidden (base : String) : List Value → List String
  | [] => []
  | v :: rest => hidden base v ++ itemHidden base rest

end

/-! ### Mentions are references and hidden ones -/

mutual

theorem mem_mentions_iff {base n : String} :
    (v : Value) → (n ∈ mentions base v ↔ n ∈ references base v ∨ n ∈ hidden base v)
  | .obj entries => by
      rw [mentions, references, hidden, List.mem_append, List.mem_append,
        mem_entryMentions_iff entries, or_assoc]
  | .arr items => by
      rw [mentions, references, hidden, mem_itemMentions_iff items]
  | .null | .bool _ | .int _ | .float _ | .str _ => by
      simp [mentions, references, hidden]
termination_by structural v => v

theorem mem_entryMentions_iff {base n : String} :
    (entries : List (String × Value)) → (n ∈ entryMentions base entries ↔
      n ∈ entryReferences base entries ∨ n ∈ entryHidden base entries)
  | [] => by simp [entryMentions, entryReferences, entryHidden]
  | (key, v) :: rest => by
      rw [entryMentions, entryReferences, entryHidden, List.mem_append, List.mem_append,
        List.mem_append, mem_mentions_iff v, mem_entryMentions_iff rest]
      split
      · rw [mem_mentions_iff v]
        simp only [List.not_mem_nil, false_or]
        exact or_left_comm
      · exact or_or_or_comm
termination_by structural entries => entries

theorem mem_itemMentions_iff {base n : String} :
    (items : List Value) → (n ∈ itemMentions base items ↔
      n ∈ itemReferences base items ∨ n ∈ itemHidden base items)
  | [] => by simp [itemMentions, itemReferences, itemHidden]
  | v :: rest => by
      rw [itemMentions, itemReferences, itemHidden, List.mem_append, List.mem_append,
        List.mem_append, mem_mentions_iff v, mem_itemMentions_iff rest]
      exact or_or_or_comm
termination_by structural items => items

end

/-! ### Entries -/

theorem mem_entryMentions {base n : String} {entries : List (String × Value)} :
    n ∈ entryMentions base entries ↔ ∃ e ∈ entries, n ∈ mentions base e.2 := by
  induction entries with
  | nil => simp [entryMentions]
  | cons e rest ih =>
      obtain ⟨key, v⟩ := e
      rw [entryMentions, List.mem_append, ih]
      simp

theorem mem_entryReferences {base n : String} {entries : List (String × Value)} :
    n ∈ entryReferences base entries ↔
      ∃ e ∈ entries, e.1 ≠ "$ref" ∧ n ∈ references base e.2 := by
  induction entries with
  | nil => simp [entryReferences]
  | cons e rest ih =>
      obtain ⟨key, v⟩ := e
      rw [entryReferences, List.mem_append, ih]
      by_cases h : key = "$ref"
      · simp [h]
      · simp [h]

/-- What is mentioned under a key is mentioned in the object. -/
theorem mem_mentions_of_get? {base n key : String} {t : Fragment} {v : Value}
    (h : Table.get? t key = some v) (hn : n ∈ mentions base v) : n ∈ mentions base (.obj t) := by
  rw [mentions, List.mem_append]
  exact .inr (mem_entryMentions.2 ⟨_, Table.mem_of_get? h, hn⟩)

/-- What is referred to under a key is referred to in the object, `$ref` itself apart. -/
theorem mem_references_of_get? {base n key : String} {t : Fragment} {v : Value}
    (h : Table.get? t key = some v) (hkey : key ≠ "$ref") (hn : n ∈ references base v) :
    n ∈ references base (.obj t) := by
  rw [references, List.mem_append]
  exact .inr (mem_entryReferences.2 ⟨_, Table.mem_of_get? h, hkey, hn⟩)

/-- An object without a text under `$ref` refers only to what its entries refer to. -/
theorem mem_references_obj {base n : String} {t : Fragment}
    (h : ∀ s, Table.get? t "$ref" ≠ some (.str s)) :
    n ∈ references base (.obj t) ↔ ∃ e ∈ t, e.1 ≠ "$ref" ∧ n ∈ references base e.2 := by
  have hown : ownReference base t = [] := by
    unfold ownReference
    split
    · rename_i s hs
      exact absurd hs (h s)
    · rfl
  rw [references, hown, List.nil_append, mem_entryReferences]

/-- A written entry brings its own references along, and no text that is one. -/
theorem mem_references_insert {base n key : String} {t : Fragment} {v : Value}
    (h : key = "$ref" → ∀ s, v ≠ .str s) (hn : n ∈ references base (.obj (Table.insert t key v))) :
    n ∈ references base (.obj t) ∨ (key ≠ "$ref" ∧ n ∈ references base v) := by
  rw [references, List.mem_append] at hn
  rcases hn with hown | hentries
  · by_cases hkey : key = "$ref"
    · subst hkey
      rw [ownReference, Table.get?_insert_self] at hown
      split at hown
      · rename_i s hs
        exact absurd (Option.some.inj hs) (h rfl s)
      · simp at hown
    · rw [ownReference, Table.get?_insert_of_ne _ _ hkey] at hown
      exact .inl (by rw [references, List.mem_append]; exact .inl hown)
  · obtain ⟨e, he, hkey, hne⟩ := mem_entryReferences.1 hentries
    rcases Table.mem_insert he with rfl | hold
    · exact .inr ⟨hkey, hne⟩
    · refine .inl ?_
      rw [references, List.mem_append]
      exact .inr (mem_entryReferences.2 ⟨e, hold, hkey, hne⟩)

end RouteDoc.Schema
