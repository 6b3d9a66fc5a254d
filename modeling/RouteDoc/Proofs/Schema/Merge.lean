import RouteDoc.Proofs.Rule.Nodes
/-!
# RouteDoc.Proofs.Schema.Merge

**Laying fragments over each other.** Among fragments whose properties are fragments all the way
down (`WellFormed`), merging is associative and idempotent, and the empty fragment changes nothing
(`merge_laws`). So it does not matter in which groups the rules of a field, or several fields of one
path, are laid over each other; only their order does.

A fragment and its properties are merged by the same scheme, `Table.mergeWith`: entries under new
keys are appended, and under a key of both tables a function of the two values says what is left.
Keys and lookups of such a table are known in closed form (`keys_mergeWith`, `get?_mergeWith`), and a
table is given by both (`ext_get?`). So each law of merging is a law of that function, and the
induction on the fragment is left with the properties alone.
-/

namespace RouteDoc

/-! ### Merging tables -/

namespace Table

section

variable {κ α : Type} [DecidableEq κ] {t u w : Table κ α}

/-- Lay the entries of a table over another one. Under a key of both, `f` says what is left. -/
def mergeWith (f : κ → α → α → α) (t new : Table κ α) : Table κ α :=
  new.foldl (fun acc e => insert acc e.1 ((get? acc e.1).elim e.2 (f e.1 · e.2))) t

variable (f : κ → α → α → α)

@[simp] theorem mergeWith_nil (t : Table κ α) : mergeWith f t [] = t := rfl

theorem mergeWith_cons (t : Table κ α) (e : κ × α) (new : Table κ α) :
    mergeWith f t (e :: new) =
      mergeWith f (insert t e.1 ((get? t e.1).elim e.2 (f e.1 · e.2))) new := rfl

theorem nodup_keys_mergeWith (new : Table κ α) (h : (keys t).Nodup) :
    (keys (mergeWith f t new)).Nodup := by
  induction new generalizing t with
  | nil => exact h
  | cons e rest ih => exact ih (nodup_keys_insert e.1 _ h)

theorem keys_mergeWith (t : Table κ α) (hu : (keys u).Nodup) :
    keys (mergeWith f t u) = keys t ++ (keys u).filter (· ∉ keys t) := by
  induction u generalizing t with
  | nil => simp
  | cons e rest ih =>
      obtain ⟨hkey, hrest⟩ := List.nodup_cons.1 hu
      rw [mergeWith_cons, ih _ hrest]
      have hkeys : keys (e :: rest) = e.1 :: keys rest := rfl
      rw [hkeys]
      by_cases h : e.1 ∈ keys t
      · rw [keys_insert_of_mem _ h, List.filter_cons_of_neg (by simpa using h)]
      · rw [keys_insert_of_not_mem _ h, List.filter_cons_of_pos (by simpa using h),
          List.append_assoc, List.singleton_append]
        congr 2
        refine List.filter_congr fun k hk => ?_
        have hne : k ≠ e.1 := fun heq => hkey (heq ▸ hk)
        simp [hne]

theorem get?_mergeWith (t : Table κ α) (hu : (keys u).Nodup) (k : κ) :
    get? (mergeWith f t u) k = Option.merge (f k) (get? t k) (get? u k) := by
  induction u generalizing t with
  | nil =>
      rw [mergeWith_nil]
      cases get? t k <;> rfl
  | cons e rest ih =>
      obtain ⟨key, v⟩ := e
      obtain ⟨hkey, hrest⟩ := List.nodup_cons.1 hu
      rw [mergeWith_cons, ih _ hrest, get?_insert, get?]
      by_cases h : key = k
      · subst h
        have hnone : get? rest key = none := get?_eq_none_iff.2 hkey
        cases get? t key <;> simp [hnone]
      · simp [h]

/-! The laws, given those of the function. -/

theorem nil_mergeWith (hu : (keys u).Nodup) : mergeWith f [] u = u := by
  refine ext_get? (nodup_keys_mergeWith f u List.nodup_nil) ?_ fun k => ?_
  · simp [keys_mergeWith f [] hu]
  · rw [get?_mergeWith f [] hu]
    cases get? u k <;> rfl

theorem mergeWith_self (ht : (keys t).Nodup) (hf : ∀ k v, get? t k = some v → f k v v = v) :
    mergeWith f t t = t := by
  refine ext_get? (nodup_keys_mergeWith f t ht) ?_ fun k => ?_
  · simp [keys_mergeWith f t ht]
  · rw [get?_mergeWith f t ht]
    cases hv : get? t k with
    | none => rfl
    | some v => rw [Option.merge, hf k v hv]

theorem mergeWith_assoc (ht : (keys t).Nodup) (hu : (keys u).Nodup) (hw : (keys w).Nodup)
    (hf : ∀ k x y z, get? t k = some x → get? u k = some y → get? w k = some z →
      f k x (f k y z) = f k (f k x y) z) :
    mergeWith f t (mergeWith f u w) = mergeWith f (mergeWith f t u) w := by
  have huw := nodup_keys_mergeWith f w hu
  refine ext_get? (nodup_keys_mergeWith f _ ht) ?_ fun k => ?_
  · rw [keys_mergeWith f _ huw, keys_mergeWith f _ hw, keys_mergeWith f _ hw, keys_mergeWith f _ hu,
      List.filter_append, List.filter_filter, List.append_assoc]
    congr 2
    -- what is new to the first two tables is new to the first one and to the second one
    refine List.filter_congr fun k _ => ?_
    by_cases hk : k ∈ keys t
    · simp [hk]
    · simp [hk]
  · rw [get?_mergeWith f _ huw, get?_mergeWith f _ hw, get?_mergeWith f _ hw, get?_mergeWith f _ hu]
    cases hx : get? t k with
    | none => cases get? u k <;> cases get? w k <;> rfl
    | some x =>
        cases hy : get? u k with
        | none => cases get? w k <;> rfl
        | some y =>
            cases hz : get? w k with
            | none => rfl
            | some z => exact congrArg some (hf k x y z hx hy hz)

end

end Table

/-! ### Merging fragments -/

namespace Schema

open Rule

/-- What is left of two values under a key of a fragment: the second one, but properties are
merged. -/
def overlaid (key : String) (old new : Value) : Value :=
  match old, new with
  | .obj ps, .obj qs => if key = "properties" then .obj (mergeProperties ps qs) else new
  | _, _ => new

/-- What is left of two properties of one name: fragments are merged, anything else replaces. -/
def overlaidProperty (old new : Value) : Value :=
  match old, new with
  | .obj f, .obj g => .obj (merge f g)
  | _, _ => new

theorem overlaid_of_ne {key : String} (h : key ≠ "properties") (old new : Value) :
    overlaid key old new = new := by
  unfold overlaid
  split
  · rw [if_neg h]
  · rfl

theorem merge_eq_mergeWith (a b : Fragment) : merge a b = Table.mergeWith overlaid a b := by
  induction b generalizing a with
  | nil => rfl
  | cons e rest ih =>
      obtain ⟨key, v⟩ := e
      rw [merge, ih, Table.mergeWith_cons]
      congr 1
      cases v with
      | obj new =>
          rw [mergeEntry]
          cases Table.get? a key with
          | none => rfl
          | some old =>
              cases old with
              | obj ps =>
                  by_cases h : key = "properties"
                  · simp [overlaid, h]
                  · simp [overlaid, h]
              | _ => rfl
      | _ =>
          rw [mergeEntry]
          · cases Table.get? a key with
            | none => rfl
            | some old => cases old <;> rfl
          · simp

theorem mergeProperties_eq_mergeWith (ps qs : Fragment) :
    mergeProperties ps qs = Table.mergeWith (fun _ => overlaidProperty) ps qs := by
  induction qs generalizing ps with
  | nil => rfl
  | cons e rest ih =>
      obtain ⟨name, v⟩ := e
      rw [mergeProperties, ih, Table.mergeWith_cons]
      congr 1
      cases v with
      | obj new =>
          rw [mergeProperty]
          cases Table.get? ps name with
          | none => rfl
          | some old => cases old <;> rfl
      | _ =>
          rw [mergeProperty]
          · cases Table.get? ps name with
            | none => rfl
            | some old => cases old <;> rfl
          · simp

/-! ### Well-formed fragments -/

/-- A fragment that has no properties but well-formed fragments. As in all tables that are written by
insertions, no key is there twice. -/
inductive WellFormed : Fragment → Prop
  | intro {f : Fragment} (nodup : (Table.keys f).Nodup)
      (properties : ∀ v, Table.get? f "properties" = some v → ∃ ps, v = .obj ps ∧
        (Table.keys ps).Nodup ∧ ∀ name w, Table.get? ps name = some w → ∃ g, w = .obj g)
      (below : ∀ ps name g, Table.get? f "properties" = some (.obj ps) →
        Table.get? ps name = some (.obj g) → WellFormed g) :
      WellFormed f

/-- Properties that are well-formed fragments, each under one name. -/
structure AreWellFormed (ps : Fragment) : Prop where
  nodup : (Table.keys ps).Nodup
  fragment : ∀ name w, Table.get? ps name = some w → ∃ g, w = .obj g ∧ WellFormed g

theorem wellFormed_iff {f : Fragment} : WellFormed f ↔ (Table.keys f).Nodup ∧
    ∀ v, Table.get? f "properties" = some v → ∃ ps, v = .obj ps ∧ AreWellFormed ps := by
  constructor
  · rintro ⟨nodup, properties, below⟩
    refine ⟨nodup, fun v hv => ?_⟩
    obtain ⟨ps, rfl, hnames, hfragments⟩ := properties v hv
    refine ⟨ps, rfl, hnames, fun name w hw => ?_⟩
    obtain ⟨g, rfl⟩ := hfragments name w hw
    exact ⟨g, rfl, below ps name g hv hw⟩
  · rintro ⟨nodup, h⟩
    refine ⟨nodup, fun v hv => ?_, fun ps name g hps hg => ?_⟩
    · obtain ⟨ps, rfl, hall⟩ := h v hv
      refine ⟨ps, rfl, hall.nodup, fun name w hw => ?_⟩
      obtain ⟨g, rfl, -⟩ := hall.fragment name w hw
      exact ⟨g, rfl⟩
    · obtain ⟨ps', hps', hall⟩ := h _ hps
      obtain rfl := Value.obj.inj hps'
      obtain ⟨g', hg', hwell⟩ := hall.fragment name _ hg
      rwa [Value.obj.inj hg']

theorem WellFormed.nodup {f : Fragment} (h : WellFormed f) : (Table.keys f).Nodup :=
  (wellFormed_iff.1 h).1

theorem WellFormed.properties {f : Fragment} (h : WellFormed f) {v : Value}
    (hv : Table.get? f "properties" = some v) : ∃ ps, v = .obj ps ∧ AreWellFormed ps :=
  (wellFormed_iff.1 h).2 v hv

theorem WellFormed.child {f g : Fragment} {name : String} (h : WellFormed f)
    (hg : child? f (.property name) = some g) : WellFormed g := by
  obtain ⟨ps, hps, hname⟩ := Option.bind_eq_some_iff.1 hg
  obtain ⟨v, hv, hentries⟩ := Option.bind_eq_some_iff.1 hps
  obtain ⟨w, hw, hfragment⟩ := Option.bind_eq_some_iff.1 hname
  obtain ⟨ps', rfl, hall⟩ := h.properties hv
  obtain rfl := Option.some.inj hentries
  obtain ⟨g', rfl, hwell⟩ := hall.fragment name w hw
  exact Option.some.inj hfragment ▸ hwell

/-! Fragments that are written down. -/

theorem wellFormed_of_none {f : Fragment} (hf : (Table.keys f).Nodup)
    (h : Table.get? f "properties" = none) : WellFormed f :=
  wellFormed_iff.2 ⟨hf, fun v hv => by simp [h] at hv⟩

theorem wellFormed_of_some {f ps : Fragment} (hf : (Table.keys f).Nodup)
    (h : Table.get? f "properties" = some (.obj ps)) (hps : AreWellFormed ps) : WellFormed f :=
  wellFormed_iff.2 ⟨hf, fun _ hv => ⟨ps, Option.some.inj (hv.symm.trans h), hps⟩⟩

theorem areWellFormed_nil : AreWellFormed [] :=
  ⟨List.nodup_nil, fun _ _ hw => nomatch hw⟩

theorem areWellFormed_cons {name : String} {f ps : Fragment} (hname : name ∉ Table.keys ps)
    (hf : WellFormed f) (hps : AreWellFormed ps) : AreWellFormed ((name, .obj f) :: ps) := by
  refine ⟨List.nodup_cons.2 ⟨hname, hps.nodup⟩, fun other w hw => ?_⟩
  rw [Table.get?] at hw
  split at hw
  · exact ⟨f, (Option.some.inj hw).symm, hf⟩
  · exact hps.fragment other w hw

/-! ### The laws -/

theorem nil_merge {a : Fragment} (ha : WellFormed a) : merge [] a = a := by
  rw [merge_eq_mergeWith]
  exact Table.nil_mergeWith overlaid ha.nodup

theorem merge_self {a : Fragment} (ha : WellFormed a) : merge a a = a := by
  induction ha with
  | @intro f nodup properties below ih =>
      rw [merge_eq_mergeWith]
      refine Table.mergeWith_self overlaid nodup fun key v hv => ?_
      by_cases hkey : key = "properties"
      · subst hkey
        obtain ⟨ps, rfl, hnames, hfragments⟩ := properties v hv
        simp only [overlaid, if_true, mergeProperties_eq_mergeWith]
        congr 1
        refine Table.mergeWith_self _ hnames fun name w hw => ?_
        obtain ⟨g, rfl⟩ := hfragments name w hw
        exact congrArg Value.obj (ih ps name g hv hw)
      · exact overlaid_of_ne hkey v v

/-- The grouping does not matter. -/
theorem merge_assoc {a b c : Fragment} (ha : WellFormed a) (hb : WellFormed b)
    (hc : WellFormed c) : merge a (merge b c) = merge (merge a b) c := by
  induction ha generalizing b c with
  | @intro a nodup properties below ih =>
      simp only [merge_eq_mergeWith]
      refine Table.mergeWith_assoc overlaid nodup hb.nodup hc.nodup fun key x y z hx hy hz => ?_
      by_cases hkey : key = "properties"
      · subst hkey
        obtain ⟨ps, rfl, hnames, hfragments⟩ := properties x hx
        obtain ⟨qs, rfl, hqs⟩ := hb.properties hy
        obtain ⟨rs, rfl, hrs⟩ := hc.properties hz
        simp only [overlaid, if_true, mergeProperties_eq_mergeWith]
        congr 1
        refine Table.mergeWith_assoc _ hnames hqs.nodup hrs.nodup fun name u v w hu hv hw => ?_
        obtain ⟨f, rfl⟩ := hfragments name u hu
        obtain ⟨g, rfl, hg⟩ := hqs.fragment name v hv
        obtain ⟨h, rfl, hh⟩ := hrs.fragment name w hw
        exact congrArg Value.obj (ih ps name f hx hu hg hh)
      · rw [overlaid_of_ne hkey, overlaid_of_ne hkey, overlaid_of_ne hkey]

/-! ### What a merged fragment holds -/

section

variable {a b : Fragment}

theorem get?_merge (a : Fragment) (hb : WellFormed b) (key : String) :
    Table.get? (merge a b) key =
      Option.merge (overlaid key) (Table.get? a key) (Table.get? b key) := by
  rw [merge_eq_mergeWith]
  exact Table.get?_mergeWith overlaid a hb.nodup key

theorem get?_mergeProperties (ps : Fragment) {qs : Fragment} (hqs : AreWellFormed qs)
    (name : String) : Table.get? (mergeProperties ps qs) name =
      Option.merge overlaidProperty (Table.get? ps name) (Table.get? qs name) := by
  rw [mergeProperties_eq_mergeWith]
  exact Table.get?_mergeWith _ ps hqs.nodup name

/-- Of all keys but the properties the second fragment decides. -/
theorem get?_merge_of_ne (a : Fragment) (hb : WellFormed b) {key : String}
    (h : key ≠ "properties") :
    Table.get? (merge a b) key = (Table.get? b key).or (Table.get? a key) := by
  rw [get?_merge a hb]
  cases Table.get? a key with
  | none => cases Table.get? b key <;> rfl
  | some old =>
      cases Table.get? b key with
      | none => rfl
      | some new => exact congrArg some (overlaid_of_ne h old new)

/-- A property of both fragments is merged, and one of a single fragment is there as it is. -/
theorem child?_merge (ha : WellFormed a) (hb : WellFormed b) (name : String) :
    child? (merge a b) (.property name) =
      Option.merge merge (child? a (.property name)) (child? b (.property name)) := by
  have hget := get?_merge a hb "properties"
  simp only [child?, fragmentAt?]
  cases hx : Table.get? a "properties" with
  | none =>
      rw [hget, hx, Option.merge_none_left, Option.bind_none, Option.bind_none,
        Option.merge_none_left]
  | some x =>
      cases hy : Table.get? b "properties" with
      | none =>
          rw [hget, hx, hy, Option.merge_none_right, Option.bind_none, Option.bind_none,
            Option.merge_none_right]
      | some y =>
          obtain ⟨ps, rfl, hps⟩ := ha.properties hx
          obtain ⟨qs, rfl, hqs⟩ := hb.properties hy
          have hboth : Table.get? (merge a b) "properties" =
              some (.obj (mergeProperties ps qs)) := by
            rw [hget, hx, hy]
            rfl
          simp only [hboth, Option.bind_some, Value.entries?, get?_mergeProperties ps hqs]
          cases hu : Table.get? ps name with
          | none => rw [Option.merge_none_left, Option.bind_none, Option.merge_none_left]
          | some u =>
              cases hv : Table.get? qs name with
              | none => rw [Option.merge_none_right, Option.bind_none, Option.merge_none_right]
              | some v =>
                  obtain ⟨f, rfl, -⟩ := hps.fragment name u hu
                  obtain ⟨g, rfl, -⟩ := hqs.fragment name v hv
                  rfl

theorem AreWellFormed.merge {ps qs : Fragment} (hps : AreWellFormed ps) (hqs : AreWellFormed qs)
    (h : ∀ name f g, Table.get? ps name = some (.obj f) → Table.get? qs name = some (.obj g) →
      WellFormed (Schema.merge f g)) : AreWellFormed (mergeProperties ps qs) := by
  constructor
  · rw [mergeProperties_eq_mergeWith]
    exact Table.nodup_keys_mergeWith _ qs hps.nodup
  · intro name w hw
    rw [get?_mergeProperties ps hqs] at hw
    cases hu : Table.get? ps name with
    | none =>
        rw [hu, Option.merge_none_left] at hw
        exact hqs.fragment name w hw
    | some u =>
        cases hv : Table.get? qs name with
        | none =>
            rw [hu, hv, Option.merge_none_right] at hw
            exact hps.fragment name w (hu.trans hw)
        | some v =>
            obtain ⟨f, rfl, -⟩ := hps.fragment name u hu
            obtain ⟨g, rfl, -⟩ := hqs.fragment name v hv
            rw [hu, hv] at hw
            obtain rfl := Option.some.inj hw
            exact ⟨_, rfl, h name f g hu hv⟩

theorem WellFormed.merge (ha : WellFormed a) (hb : WellFormed b) :
    WellFormed (Schema.merge a b) := by
  induction ha generalizing b with
  | @intro a nodup properties below ih =>
      have ha : WellFormed a := .intro nodup properties below
      refine wellFormed_iff.2 ⟨?_, fun v hv => ?_⟩
      · rw [merge_eq_mergeWith]
        exact Table.nodup_keys_mergeWith overlaid b nodup
      · rw [get?_merge a hb] at hv
        cases hx : Table.get? a "properties" with
        | none =>
            rw [hx, Option.merge_none_left] at hv
            exact hb.properties hv
        | some x =>
            cases hy : Table.get? b "properties" with
            | none =>
                rw [hx, hy, Option.merge_none_right] at hv
                exact ha.properties (hx.trans hv)
            | some y =>
                obtain ⟨ps, rfl, hps⟩ := ha.properties hx
                obtain ⟨qs, rfl, hqs⟩ := hb.properties hy
                rw [hx, hy] at hv
                obtain rfl := Option.some.inj hv
                refine ⟨_, rfl, hps.merge hqs fun name f g hf hg => ?_⟩
                obtain ⟨g', hg', hwell⟩ := hqs.fragment name _ hg
                obtain rfl := Value.obj.inj hg'
                exact ih ps name f hx hf hwell

end

/-! ### Fragments on the way down -/

/-- The fragment at the end of a path of property names. -/
def propertyAt? (f : Fragment) (names : List String) : Option Fragment :=
  nodeAt? (some f) (names.map .property)

/-- What the fragment at the end of a path holds under a key. -/
def entryAt? (f : Fragment) (names : List String) (key : String) : Option Value :=
  (propertyAt? f names).bind (Table.get? · key)

theorem nodeAt?_merge {x y : Option Fragment} (hx : ∀ f, x = some f → WellFormed f)
    (hy : ∀ f, y = some f → WellFormed f) (names : List String) :
    nodeAt? (Option.merge merge x y) (names.map .property) =
      Option.merge merge (nodeAt? x (names.map .property)) (nodeAt? y (names.map .property)) := by
  induction names generalizing x y with
  | nil => rfl
  | cons name rest ih =>
      have hstep : (Option.merge merge x y).bind (child? · (.property name)) =
          Option.merge merge (x.bind (child? · (.property name)))
            (y.bind (child? · (.property name))) := by
        cases x with
        | none => rw [Option.merge_none_left, Option.bind_none, Option.merge_none_left]
        | some f =>
            cases y with
            | none => rw [Option.merge_none_right, Option.bind_none, Option.merge_none_right]
            | some g => exact child?_merge (hx f rfl) (hy g rfl) name
      rw [List.map_cons, nodeAt?, nodeAt?, nodeAt?, hstep]
      apply ih
      · intro f hf
        obtain ⟨g, hg, hchild⟩ := Option.bind_eq_some_iff.1 hf
        exact (hx g hg).child hchild
      · intro f hf
        obtain ⟨g, hg, hchild⟩ := Option.bind_eq_some_iff.1 hf
        exact (hy g hg).child hchild

theorem WellFormed.propertyAt? {f g : Fragment} (h : WellFormed f) {names : List String}
    (hg : Schema.propertyAt? f names = some g) : WellFormed g := by
  induction names generalizing f with
  | nil => exact Option.some.inj hg ▸ h
  | cons name rest ih =>
      rw [Schema.propertyAt?, List.map_cons, nodeAt?, Option.bind_some] at hg
      cases hchild : child? f (.property name) with
      | none => simp [hchild] at hg
      | some below =>
          rw [hchild] at hg
          exact ih (h.child hchild) hg

/-- What laying a fragment over another one has to give. -/
structure LaidOver (a b result : Fragment) : Prop where
  wellFormed : WellFormed result
  /-- New keys come behind the old ones. -/
  keys : Table.keys result = Table.keys a ++ (Table.keys b).filter (· ∉ Table.keys a)
  /-- At every property of both, theirs are merged; other properties are there as they are. -/
  property : ∀ names, propertyAt? result names =
    Option.merge merge (propertyAt? a names) (propertyAt? b names)
  /-- Under any other key of any property the upper fragment wins. -/
  entry : ∀ names key, key ≠ "properties" →
    entryAt? result names key = (entryAt? b names key).or (entryAt? a names key)

theorem laidOver_merge {a b : Fragment} (ha : WellFormed a) (hb : WellFormed b) :
    LaidOver a b (merge a b) := by
  have hproperty : ∀ names, propertyAt? (merge a b) names =
      Option.merge merge (propertyAt? a names) (propertyAt? b names) := by
    intro names
    exact nodeAt?_merge (fun f hf => Option.some.inj hf ▸ ha) (fun f hf => Option.some.inj hf ▸ hb)
      names
  refine ⟨ha.merge hb, ?_, hproperty, fun names key hkey => ?_⟩
  · rw [merge_eq_mergeWith]
    exact Table.keys_mergeWith overlaid a hb.nodup
  · simp only [entryAt?, hproperty]
    cases propertyAt? a names with
    | none => simp
    | some f =>
        cases hg : propertyAt? b names with
        | none => simp
        | some g => exact get?_merge_of_ne f (hb.propertyAt? hg) hkey

/-- **Merging is a monoid of well-formed fragments, and idempotent.** Fragments may be laid over each
other in any grouping, the order of keys included; the empty fragment and a fragment that is there
already change nothing; and what comes out is well formed and holds, at every property, what the
upper fragment says and otherwise what the lower one says. -/
theorem merge_laws {a b c : Fragment} (ha : WellFormed a) (hb : WellFormed b) (hc : WellFormed c) :
    merge a (merge b c) = merge (merge a b) c ∧
      WellFormed [] ∧ merge [] a = a ∧ merge a [] = a ∧ merge a a = a ∧
      LaidOver a b (merge a b) := by
  exact ⟨merge_assoc ha hb hc, wellFormed_of_none List.nodup_nil rfl, nil_merge ha, rfl,
    merge_self ha, laidOver_merge ha hb⟩

/-! A property that is itself called `properties`. -/

/-- An object in an object. -/
def nested : Fragment :=
  [("type", .str "object"),
    ("properties", .obj [("properties", .obj [("type", .str "object"),
      ("properties", .obj [("id", .obj [("type", .str "integer")])])])])]

/-- More about the inner object. -/
def described : Fragment :=
  [("properties", .obj [("properties", .obj [("properties", .obj [
    ("tag", .obj [("type", .str "string")]), ("id", .obj [("description", .str "A key")])])])])]

/-- Another type of the inner object. -/
def retyped : Fragment := [("properties", .obj [("properties", .obj [("type", .str "array")])])]

theorem wellFormed_nested : WellFormed nested :=
  wellFormed_of_some (by decide) rfl <| areWellFormed_cons (by decide)
    (wellFormed_of_some (by decide) rfl <| areWellFormed_cons (by decide)
      (wellFormed_of_none (by decide) rfl) areWellFormed_nil) areWellFormed_nil

theorem wellFormed_described : WellFormed described :=
  wellFormed_of_some (by decide) rfl <| areWellFormed_cons (by decide)
    (wellFormed_of_some (by decide) rfl <| areWellFormed_cons (by decide)
      (wellFormed_of_none (by decide) rfl) <| areWellFormed_cons (by decide)
        (wellFormed_of_none (by decide) rfl) areWellFormed_nil) areWellFormed_nil

theorem wellFormed_retyped : WellFormed retyped :=
  wellFormed_of_some (by decide) rfl <| areWellFormed_cons (by decide)
    (wellFormed_of_none (by decide) rfl) areWellFormed_nil

theorem merge_laws_nested :
    WellFormed nested ∧ WellFormed described ∧ WellFormed retyped ∧
      merge nested (merge described retyped) = merge (merge nested described) retyped ∧
      entryAt? (merge nested described) ["properties", "id"] "type" = some (.str "integer") := by
  obtain ⟨hassoc, -, -, -, -, hlaid⟩ :=
    merge_laws wellFormed_nested wellFormed_described wellFormed_retyped
  refine ⟨wellFormed_nested, wellFormed_described, wellFormed_retyped, hassoc, ?_⟩
  rw [hlaid.entry ["properties", "id"] "type" (by decide)]
  decide

end Schema

end RouteDoc
