import RouteDoc.Proofs.Shape.Logging
/-!
# RouteDoc.Proofs.Shape.Flattening

**Arrays inside an array are spliced in place.** An item without a key may bring an array with it: a
spread one, or the argument of a merging call. `flatten` puts the items of that array where the item
stands, at any depth, and leaves every other item without a key out.

* `run_collect` says what the properties of an array are: the table that the flattened items write one
  after the other (`written`), while their values are noted in this order (`noted`).
* `objectOfArray_flatten` compares an array with its flattened form.
-/

namespace RouteDoc.Shape

open RouteDoc.Schema

/-! ### Well-typed expressions -/

mutual

/-- Whether every name in an expression is a text, and every literal of its own sort; truth values
count as integers, and both as numbers. -/
def Node.isTyped : Node → Bool
  | .string v => v.kind = .str
  | .int v => v.kind ∈ [Value.Kind.int, .bool]
  | .float v => v.kind ∈ [Value.Kind.float, .int, .bool]
  | .bool v => v.kind = .bool
  | .null => true
  | .variable name => name.kind = .str
  | .property target name => target.isTyped && name.kind = .str
  | .call target method arguments => target.isTyped && method.kind = .str && areTyped arguments
  | .staticCall className method arguments =>
      className.kind = .str && method.kind = .str && areTyped arguments
  | .functionCall name arguments => name.kind = .str && areTyped arguments
  | .create className arguments => className.kind = .str && areTyped arguments
  | .constant className name => className.kind = .str && name.kind = .str
  | .conditional condition ifTrue ifFalse =>
      condition.isTyped && isTyped? ifTrue && isTyped? ifFalse
  | .coalesce left right => left.isTyped && right.isTyped
  | .array items => areTypedItems items
  | .unknown kind => kind.kind = .str

/-- Whether an expression is well-typed, where there is one. -/
def isTyped? : Option Node → Bool
  | none => true
  | some node => node.isTyped

/-- Whether all expressions are well-typed. -/
def areTyped : List Node → Bool
  | [] => true
  | node :: rest => node.isTyped && areTyped rest

/-- Whether the values and keys of all items are well-typed. -/
def areTypedItems : List (Node × Option Node × Bool) → Bool
  | [] => true
  | (node, key, _) :: rest => node.isTyped && isTyped? key && areTypedItems rest

end

theorem isTyped_of_mem {node : Node} {nodes : List Node} (h : areTyped nodes = true)
    (hmem : node ∈ nodes) : node.isTyped = true := by
  induction nodes with
  | nil => simp at hmem
  | cons first rest ih =>
      rw [areTyped, Bool.and_eq_true] at h
      rcases List.mem_cons.1 hmem with rfl | hrest
      · exact h.1
      · exact ih h.2 hrest

theorem isTyped_of_mem_items {item : Item} {items : List Item} (h : areTypedItems items = true)
    (hmem : item ∈ items) : item.1.isTyped = true := by
  induction items with
  | nil => simp at hmem
  | cons first rest ih =>
      simp only [areTypedItems, Bool.and_eq_true] at h
      rcases List.mem_cons.1 hmem with rfl | hrest
      · exact h.1.1
      · exact ih h.2 hrest

theorem areTypedItems_append {items more : List Item} :
    areTypedItems (items ++ more) = (areTypedItems items && areTypedItems more) := by
  induction items with
  | nil => rfl
  | cons item rest ih =>
      obtain ⟨node, key, spread⟩ := item
      rw [List.cons_append, areTypedItems, areTypedItems, ih, ← Bool.and_assoc]

theorem exists_of_kind_str {v : Value} (h : v.kind = .str) : ∃ s, v = .str s := by
  cases v with
  | str s => exact ⟨s, rfl⟩
  | _ => simp [Value.kind] at h

/-! ### Flattening -/

/-- The items of the array that a call merges: `merge` has it as its first argument, `mergeWhen` and
`mergeUnless` have it behind a condition. -/
def merged : String → List Node → List Item
  | "merge", .array items :: _ => items
  | "mergeWhen", _ :: .array items :: _ => items
  | "mergeUnless", _ :: .array items :: _ => items
  | _, _ => []

/-- The items that an item without a key brings with it: those of an array that is spread, or of
the array that a call merges. -/
def brought (spread : Bool) : Node → List Item
  | .array items => if spread then items else []
  | .call _ (.str method) arguments => merged method arguments
  | _ => []

theorem brought_call (spread : Bool) (target : Node) (method : String) (arguments : List Node) :
    brought spread (.call target (.str method) arguments) = [] ∨
      ∃ items, .array items ∈ arguments ∧
        brought spread (.call target (.str method) arguments) = items := by
  rw [brought]
  unfold merged
  split
  · exact .inr ⟨_, List.mem_cons_self, rfl⟩
  · exact .inr ⟨_, List.mem_cons_of_mem _ List.mem_cons_self, rfl⟩
  · exact .inr ⟨_, List.mem_cons_of_mem _ List.mem_cons_self, rfl⟩
  · exact .inl rfl

theorem get?_mergeMethods {method : String} {position : Nat}
    (h : Table.get? mergeMethods method = some position) :
    method = "merge" ∧ position = 0 ∨
      method = "mergeWhen" ∧ position = 1 ∨ method = "mergeUnless" ∧ position = 1 := by
  have hmem := Table.mem_of_get? h
  simp only [mergeMethods, List.mem_cons, Prod.mk.injEq, List.not_mem_nil, or_false] at hmem
  rcases hmem with hwhen | hunless | hmerge
  · exact .inr (.inl hwhen)
  · exact .inr (.inr hunless)
  · exact .inl hmerge

theorem exists_cons_of_getElem?_zero {nodes : List Node} {node : Node}
    (h : nodes[0]? = some node) : ∃ rest, nodes = node :: rest := by
  cases nodes with
  | nil => cases h
  | cons first rest => exact ⟨rest, congrArg (· :: rest) (Option.some.inj h)⟩

theorem exists_cons_of_getElem?_one {nodes : List Node} {node : Node}
    (h : nodes[1]? = some node) : ∃ first rest, nodes = first :: node :: rest := by
  cases nodes with
  | nil => cases h
  | cons first more =>
      obtain ⟨rest, rfl⟩ := exists_cons_of_getElem?_zero h
      exact ⟨first, rest, rfl⟩

/-- The table of merging calls says the same. -/
theorem merged_eq (method : String) (arguments : List Node) :
    merged method arguments =
      match (Table.get? mergeMethods method).bind (arguments[·]?) with
      | some (.array items) => items
      | _ => [] := by
  unfold merged
  split
  · rfl
  · rfl
  · rfl
  · rename_i hmerge hwhen hunless
    split
    · rename_i items h
      obtain ⟨position, hmethod, hitems⟩ := Option.bind_eq_some_iff.1 h
      rcases get?_mergeMethods hmethod with ⟨rfl, rfl⟩ | ⟨rfl, rfl⟩ | ⟨rfl, rfl⟩
      · obtain ⟨rest, rfl⟩ := exists_cons_of_getElem?_zero hitems
        exact (hmerge items rest rfl rfl).elim
      · obtain ⟨condition, rest, rfl⟩ := exists_cons_of_getElem?_one hitems
        exact (hwhen condition items rest rfl rfl).elim
      · obtain ⟨condition, rest, rfl⟩ := exists_cons_of_getElem?_one hitems
        exact (hunless condition items rest rfl rfl).elim
    · rfl

theorem sizeOf_brought_lt (spread : Bool) (node : Node) (key : Option Node) (rest : List Item) :
    sizeOf (brought spread node) < sizeOf ((node, key, spread) :: rest) := by
  have hnode : sizeOf (brought spread node) ≤ sizeOf node := by
    cases node with
    | array items => cases spread <;> simp [brought]
    | call target method arguments =>
        cases method with
        | str method =>
            rcases brought_call spread target method arguments with hnil | ⟨items, hmem, hitems⟩
            · rw [hnil]
              simp
              omega
            · have := List.sizeOf_lt_of_mem hmem
              rw [hitems]
              simp at this ⊢
              omega
        | _ =>
            simp [brought]
            omega
    | _ => simp [brought] <;> omega
  simp
  omega

/-- The items of an array with those that are brought put in place, at any depth; items without a
key that bring nothing are left out. -/
def flatten : List Item → List Item
  | [] => []
  | (node, none, spread) :: rest => flatten (brought spread node) ++ flatten rest
  | (node, some key, spread) :: rest => (node, some key, spread) :: flatten rest
termination_by items => sizeOf items
decreasing_by
  · exact sizeOf_brought_lt spread node none rest
  all_goals
    simp only [List.cons.sizeOf_spec]
    omega

theorem areTypedItems_brought (spread : Bool) {node : Node} (h : node.isTyped = true) :
    areTypedItems (brought spread node) = true := by
  cases node with
  | array items =>
      rw [brought]
      split
      · exact h
      · rfl
  | call target method arguments =>
      simp only [Node.isTyped, Bool.and_eq_true, decide_eq_true_eq] at h
      obtain ⟨method, rfl⟩ := exists_of_kind_str h.1.2
      rcases brought_call spread target method arguments with hnil | ⟨items, hmem, hitems⟩
      · rw [hnil]
        rfl
      · rw [hitems]
        exact isTyped_of_mem h.2 hmem
  | _ => rfl

theorem areTypedItems_flatten {items : List Item} (h : areTypedItems items = true) :
    areTypedItems (flatten items) = true := by
  fun_induction flatten items with
  | case1 => rfl
  | case2 node spread rest ihbrought ihrest =>
      simp only [areTypedItems, Bool.and_eq_true] at h
      rw [areTypedItems_append, ihbrought (areTypedItems_brought spread h.1.1), ihrest h.2]
      rfl
  | case3 node key spread rest ih =>
      simp only [areTypedItems, Bool.and_eq_true] at h ⊢
      exact ⟨h.1, ih h.2⟩

/-- What is flattened has keys only. -/
theorem isSome_key_of_mem_flatten {items : List Item} {item : Item} (h : item ∈ flatten items) :
    item.2.1.isSome = true := by
  fun_induction flatten items with
  | case1 => simp at h
  | case2 node spread rest ihbrought ihrest =>
      exact (List.mem_append.1 h).elim ihbrought ihrest
  | case3 node key spread rest ih =>
      rcases List.mem_cons.1 h with rfl | hrest
      · rfl
      · exact ih hrest

/-- Where all items have keys, there is nothing to flatten. -/
theorem flatten_eq_self {items : List Item} (h : ∀ item ∈ items, item.2.1.isSome = true) :
    flatten items = items := by
  induction items with
  | nil => rw [flatten]
  | cons item rest ih =>
      obtain ⟨node, key, spread⟩ := item
      obtain ⟨key, rfl⟩ := Option.isSome_iff_exists.1 (h _ List.mem_cons_self)
      rw [flatten, ih fun other hother => h other (List.mem_cons_of_mem _ hother)]

theorem flatten_flatten (items : List Item) : flatten (flatten items) = flatten items :=
  flatten_eq_self fun _ h => isSome_key_of_mem_flatten h

/-! ### What items write -/

/-- The property that an item describes: its key, when that is a text, and its value. -/
def property? : Item → Option (String × Node)
  | (node, some (.string (.str key)), _) => some (key, node)
  | _ => none

theorem snd_of_property? {item : Item} {p : String × Node} (h : property? item = some p) :
    p.2 = item.1 := by
  unfold property? at h
  split at h
  · rw [← Option.some.inj h]
  · simp at h

/-- The properties that items describe, in order; a key may be there twice. -/
def described (items : List Item) : List (String × Node) := items.filterMap property?

/-- The schemas of properties under their keys. -/
def written (base : String) (properties : List (String × Node)) : List (String × Value) :=
  properties.map fun p => (p.1, .obj (p.2.description base))

/-- What properties add to the log. -/
def noted (base : String) : List (String × Node) → Log
  | [] => {}
  | (_, node) :: rest => node.noted base ++ noted base rest

theorem described_append (items more : List Item) :
    described (items ++ more) = described items ++ described more :=
  List.filterMap_append

theorem written_append (base : String) (properties more : List (String × Node)) :
    written base (properties ++ more) = written base properties ++ written base more :=
  List.map_append

theorem noted_append (base : String) (properties more : List (String × Node)) :
    noted base (properties ++ more) = noted base properties ++ noted base more := by
  induction properties with
  | nil => rfl
  | cons p rest ih => rw [List.cons_append, noted, noted, ih, Log.append_assoc]

/-! ### Running the inference -/

theorem run_bind_of_ok {α β : Type} {x : Attempt α} {f : α → Attempt β} {log after : Log} {a : α}
    (h : x.run.run log = (.ok a, after)) : (x >>= f).run.run log = (f a).run.run after := by
  have hbind : (x >>= f).run.run log =
      (ExceptT.bindCont f (x.run.run log).1).run (x.run.run log).2 := rfl
  rw [hbind, h]
  rfl

theorem run_mergedArgument (base : String) (position : Nat) (arguments : List Node) :
    mergedArgument base position arguments = match arguments[position]? with
      | some (.array items) => collect base [] items
      | _ => return [] := by
  induction arguments generalizing position with
  | nil => cases position <;> rfl
  | cons node rest ih =>
      cases position with
      | zero => cases node <;> rfl
      | succ position =>
          rw [mergedArgument, ih]
          rfl

/-- An item without a key brings in the properties of its items. -/
theorem spliced_eq (base : String) (spread : Bool) {node : Node} (h : node.isTyped = true) :
    spliced base spread node = collect base [] (brought spread node) := by
  cases node with
  | array items => cases spread <;> rfl
  | call target method arguments =>
      simp only [Node.isTyped, Bool.and_eq_true, decide_eq_true_eq] at h
      obtain ⟨method, rfl⟩ := exists_of_kind_str h.1.2
      have hposition : (liftM (methodPosition? mergeMethods (.str method)) :
          Attempt (Option Nat)) = pure (Table.get? mergeMethods method) := rfl
      rw [spliced, hposition, pure_bind, brought, merged_eq]
      cases Table.get? mergeMethods method with
      | none => rfl
      | some position =>
          dsimp only [Option.bind]
          rw [run_mergedArgument]
          split <;> rfl
  | _ => rfl

/-- **What the properties of an array are.** The flattened items write them one after the other. -/
theorem run_collect (base : String) {items : List Item} (h : areTypedItems items = true)
    (done : Fragment) (log : Log) :
    (collect base done items).run.run log =
      (.ok (Table.insertAll done (written base (described (flatten items)))),
        log ++ noted base (described (flatten items))) := by
  fun_induction flatten items generalizing done log with
  | case1 => exact congrArg (Prod.mk _) (Log.append_empty log).symm
  | case2 node spread rest ihbrought ihrest =>
      simp only [areTypedItems, Bool.and_eq_true] at h
      have hbrought := ihbrought (areTypedItems_brought spread h.1.1) [] log
      rw [collect, spliced_eq base spread h.1.1, run_bind_of_ok hbrought, ihrest h.2,
        described_append, written_append, noted_append, Table.insertAll_append, Log.append_assoc,
        ← Table.ofEntries, Table.insertAll_ofEntries]
  | case3 node key spread rest ih =>
      simp only [areTypedItems, Bool.and_eq_true] at h
      cases key with
      | string key =>
          obtain ⟨key, rfl⟩ : ∃ s, key = .str s :=
            exists_of_kind_str (by simpa [isTyped?, Node.isTyped] using h.1.2)
          have hvalue : (liftM (value base node) : Attempt Fragment).run.run log =
              (.ok (node.description base), log ++ node.noted base) :=
            congrArg (Prod.map Except.ok id) (run_value base node log)
          have hstep : (collect base done ((node, some (.string (.str key)), spread) :: rest)).run.run
              log = (collect base (Table.insert done key (.obj (node.description base))) rest).run.run
                (log ++ node.noted base) := by
            rw [collect, run_bind_of_ok hvalue]
            rfl
          rw [hstep, ih h.2]
          exact congrArg (Prod.mk _) (Log.append_assoc ..)
      | _ => exact ih h.2 done log

/-! ### Arrays and their flattened form -/

/-- The schema of an array of well-typed items. -/
theorem run_objectOfArray (base : String) {items : List Item} (h : areTypedItems items = true)
    (log : Log) :
    (objectOfArray base items).run.run log =
      (.ok [("type", .str "object"),
          ("properties", .obj (Table.ofEntries (written base (described (flatten items)))))],
        log ++ noted base (described (flatten items))) := by
  rw [objectOfArray, properties, run_bind_of_ok (run_collect base h [] log)]
  rfl

/-- **Merged arrays are flattened.** A well-typed array gives the same schema as its flattened form,
with its properties in the same order, and leaves the same references and diagnostics behind; and of
the items of one key, wherever they were nested, the last one gives the schema. -/
theorem objectOfArray_flatten (base : String) {items : List Item}
    (h : (Node.array items).isTyped = true) (log : Log) :
    ∃ properties after,
      (objectOfArray base items).run.run log =
        (.ok [("type", .str "object"), ("properties", .obj properties)], after) ∧
      (objectOfArray base (flatten items)).run.run log =
        (.ok [("type", .str "object"), ("properties", .obj properties)], after) ∧
      ∀ before key node later, described (flatten items) = before ++ (key, node) :: later →
        key ∉ Table.keys later →
          Table.get? properties key = some (.obj (node.description base)) := by
  refine ⟨_, _, run_objectOfArray base h log, ?_, fun before key node later hsplit hlater => ?_⟩
  · have hflat := run_objectOfArray base (areTypedItems_flatten h) log
    rwa [flatten_flatten] at hflat
  · have hwritten : written base (described (flatten items)) =
        written base before ++ (key, .obj (node.description base)) :: written base later := by
      rw [hsplit, written_append]
      rfl
    rw [hwritten]
    refine Table.get?_ofEntries_of_last ?_ _
    rwa [written, Table.keys, List.map_map]

/-- A response in which a name is written, and written again by an array that is spread in the array
of a merging call; a last item brings nothing. -/
def adminProfile : List Item :=
  [(.property (.variable (.str "this")) (.str "name"), some (.string (.str "name")), false),
    (.call (.variable (.str "this")) (.str "mergeWhen")
      [.bool (.bool true),
        .array [(.int (.int 3), some (.string (.str "level")), false),
          (.array [(.staticCall (.str "TeamResource") (.str "make") [],
            some (.string (.str "name")), false)], none, true)]], none, false),
    (.variable (.str "rest"), none, true)]

theorem described_adminProfile : described (flatten adminProfile) =
    [("name", .property (.variable (.str "this")) (.str "name")), ("level", .int (.int 3)),
      ("name", .staticCall (.str "TeamResource") (.str "make") [])] := by
  simp [adminProfile, flatten, brought, merged, described, property?]

theorem objectOfArray_flatten_adminProfile :
    (Node.array adminProfile).isTyped = true ∧
    ∃ properties after,
      (objectOfArray componentPrefix adminProfile).run.run {} =
        (.ok [("type", .str "object"), ("properties", .obj properties)], after) ∧
      Table.get? properties "name" = some (.obj (refTo componentPrefix "TeamResource")) := by
  have htyped : (Node.array adminProfile).isTyped = true := by decide
  obtain ⟨properties, after, hrun, _, hlast⟩ := objectOfArray_flatten componentPrefix htyped {}
  exact ⟨htyped, properties, after, hrun,
    hlast [_, _] "name" _ [] described_adminProfile List.not_mem_nil⟩

end RouteDoc.Shape
