import Mathlib.Data.List.Forall2
import RouteDoc.Proofs.Source.References
/-!
# RouteDoc.Proofs.Source.Resources

**What following references preserves.** A resource is known already, or has no method to tell of it,
or is put together from the resources that it refers to; the three `resource_of_…` lemmas run one
resource, and nothing below looks into it again.

* `Yields` is a triple over runs: from a cache whose entries have a property, to such a cache and a
  result. `Kept` collects what a property needs for one resource, and `Kept.resource` is the
  induction over levels.
* `Answers` is the property of everything that is ever kept: a resource has its own schema, and each
  component is the schema of a resource that it leads to, with a relation `Q` between the two.
* `kept_unfolded` is the exact answer where chains are short: nothing is cut off then, so a resource
  is kept with all that it leads to.
-/

namespace RouteDoc.Source

namespace SourceIndex

variable (index : SourceIndex)

/-- The references of a resource that are followed. -/
def followed : Nat → List String → String → List String
  | 0, _, _ => []
  | _ + 1, visiting, name => (index.references name).filter (· ∉ visiting)

variable {index}

theorem exists_of_forall₂ {α β : Type} {R : α → β → Prop} {xs : List α} {ys : List β}
    (h : List.Forall₂ R xs ys) {x : α} (hx : x ∈ xs) : ∃ y ∈ ys, R x y := by
  induction h with
  | nil => exact absurd hx List.not_mem_nil
  | cons hxy _ ih =>
      rcases List.mem_cons.1 hx with rfl | hx
      · exact ⟨_, List.mem_cons_self, hxy⟩
      · obtain ⟨y, hy, hxy⟩ := ih hx
        exact ⟨y, List.mem_cons_of_mem _ hy, hxy⟩

theorem mem_references_of_followed {levels : Nat} {visiting : List String} {a b : String}
    (h : b ∈ index.followed levels visiting a) : index.RefersTo a b ∧ b ∉ visiting := by
  cases levels with
  | zero => exact absurd h List.not_mem_nil
  | succ levels =>
      obtain ⟨hb, hv⟩ := List.mem_filter.1 h
      exact ⟨hb, of_decide_eq_true hv⟩

/-! ### Running one resource -/

theorem run_forM_noteResource (found : List Shape.Diagnostic) (s : ResourceState) :
    ∃ issues, (found.forM fun d => noteResource (.shape d)).run s = ((), { s with issues }) := by
  induction found generalizing s with
  | nil => exact ⟨s.issues, rfl⟩
  | cons d found ih =>
      obtain ⟨issues, h⟩ := ih { s with issues := s.issues ++ [.shape d] }
      exact ⟨issues, h⟩

theorem foldlM_addResource (f : String → ResourceM ResourceSchema) (names : List String)
    (components : Table String Fragment) :
    (names.foldlM (fun components r => do
      let nested ← f r
      return addResource components nested) components) =
    (do let found ← names.mapM f; return found.foldl addResource components) := by
  induction names generalizing components with
  | nil => simp
  | cons name names ih =>
      simp only [List.foldlM_cons, List.mapM_cons, bind_assoc, pure_bind, ih, List.foldl_cons]

theorem resource_of_known {levels : Nat} {visiting : List String} {name : String}
    {s : ResourceState} {r : ResourceSchema} (h : Table.get? s.cache name = some r) :
    (index.resource levels visiting name).run s = (r, s) := by
  rw [resource.eq_def]
  simp only [bind, StateT.bind, get, getThe, MonadStateOf.get, StateT.get, pure, StateT.run]
  rw [h]
  rfl

/-- Without a method, a resource is plain; it is kept when there is at least the class. -/
theorem resource_of_own?_eq_none {levels : Nat} {visiting : List String} {name : String}
    {s : ResourceState} (h : Table.get? s.cache name = none) (hown : index.own? name = none) :
    ∃ s', (index.resource levels visiting name).run s = (index.schemaWith name [], s') ∧
      (s'.cache = s.cache ∨
        s'.cache = Table.insert s.cache name (index.schemaWith name [])) := by
  have hplain : index.schemaWith name [] =
      { name := ClassName.base name, schema := Shape.unknownSchema } := by
    simp [schemaWith, ownSchema, hown]
  rw [resource.eq_def]
  simp only [bind, StateT.bind, get, getThe, MonadStateOf.get, StateT.get, pure, StateT.run]
  rw [h, hplain]
  cases hclass : index.class? name with
  | none => exact ⟨_, rfl, .inl rfl⟩
  | some found =>
      obtain ⟨file, found⟩ := found
      cases hmethod : found.method? "toArray" with
      | none => exact ⟨_, by simp only [hmethod]; rfl, .inr rfl⟩
      | some method => simp [own?, hclass, hmethod] at hown

theorem followed_succ {levels : Nat} {visiting : List String} {name : String} {own : OwnShape}
    (hown : index.own? name = some own) :
    index.followed (levels + 1) visiting name =
      own.references.filter fun r => r ≠ name && r ∉ visiting := by
  simp only [followed, references, hown, Option.map_some, Option.getD_some, List.filter_filter]
  exact List.filter_congr fun r _ => Bool.and_comm _ _

/-- With a method, a resource is put together from those that are followed, at every level. -/
theorem resource_eq (levels : Nat) (visiting : List String) {name : String} {own : OwnShape}
    (hown : index.own? name = some own) :
    index.resource levels visiting name = (do
      if let some known := Table.get? (← get).cache name then return known
      own.diagnostics.forM fun d => noteResource (.shape d)
      let found ← (index.followed levels visiting name).mapM
        (index.resource (levels - 1) (name :: visiting))
      let r := index.schemaWith name (found.foldl addResource [])
      remember name r
      return r) := by
  cases hclass : index.class? name with
  | none => simp [own?, hclass] at hown
  | some entry =>
      obtain ⟨file, found⟩ := entry
      cases hmethod : found.method? "toArray" with
      | none => simp [own?, hclass, hmethod] at hown
      | some method =>
          obtain rfl : file.ownShape (ClassName.base name) method = own := by
            simpa [own?, hclass, hmethod] using hown
          have hschema : index.ownSchema name =
              (file.ownShape (ClassName.base name) method).schema := by
            simp [ownSchema, hown]
          rw [resource.eq_def]
          simp only [hclass, hmethod, schemaWith, hschema]
          cases levels with
          | zero => rfl
          | succ levels =>
              dsimp only
              rw [followed_succ hown]
              simp only [foldlM_addResource, bind_assoc, pure_bind]
              rfl

/-- With a method, a resource is put together from those that it refers to, and kept. -/
theorem resource_of_own?_ne_none {levels : Nat} {visiting : List String} {name : String}
    {s : ResourceState} (h : Table.get? s.cache name = none) (hown : index.own? name ≠ none) :
    ∃ issues found s',
      ((index.followed levels visiting name).mapM
        (index.resource (levels - 1) (name :: visiting))).run { s with issues } = (found, s') ∧
      (index.resource levels visiting name).run s =
        (index.schemaWith name (found.foldl addResource []),
          { s' with cache :=
            Table.insert s'.cache name (index.schemaWith name (found.foldl addResource [])) }) := by
  obtain ⟨own, hown⟩ := Option.ne_none_iff_exists'.1 hown
  obtain ⟨issues, hissues⟩ := run_forM_noteResource own.diagnostics s
  refine ⟨issues, _, _, rfl, ?_⟩
  rw [resource_eq levels visiting hown]
  simp only [StateT.run, bind, StateT.bind, get, getThe, MonadStateOf.get, StateT.get, pure, h]
    at hissues ⊢
  rw [hissues]
  rfl

/-! ### From one resource to all -/

variable {P : ResourceCache → String → ResourceSchema → Prop}

/-- Everything that is kept has a property, which may speak of what else is kept. -/
def AllKept (P : ResourceCache → String → ResourceSchema → Prop) (kept : ResourceCache) : Prop :=
  ∀ name r, Table.get? kept name = some r → P kept name r

theorem allKept_nil : AllKept P [] := fun _ _ h => absurd h (by simp)

/-- Nothing that was kept is forgotten, and what is kept now has a property. -/
structure Extends (P : ResourceCache → String → ResourceSchema → Prop)
    (before after : ResourceCache) : Prop where
  /-- Names are not forgotten. -/
  keys : ∀ name ∈ Table.keys before, name ∈ Table.keys after
  /-- What is kept has the property. -/
  all : AllKept P after

/-- What holds goes on to hold when more is kept. -/
def Lasting {α β : Type} (R : ResourceCache → α → β → Prop) : Prop :=
  ∀ ⦃before after : ResourceCache⦄, (∀ name ∈ Table.keys before, name ∈ Table.keys after) →
    ∀ x y, R before x y → R after x y

/-- Started where everything that is kept has a property, `x` has a result as `R` says, forgets
nothing, and leaves a state of the same kind. -/
def Yields {β : Type} (P : ResourceCache → String → ResourceSchema → Prop) (x : ResourceM β)
    (R : ResourceCache → β → Prop) : Prop :=
  ∀ s, AllKept P s.cache → R (x.run s).2.cache (x.run s).1 ∧ Extends P s.cache (x.run s).2.cache

/-- Run one after another: what holds of each result at its time holds of all results at the end. -/
theorem Yields.mapM {α β : Type} {f : α → ResourceM β} {R : ResourceCache → α → β → Prop}
    (hlasting : Lasting R) {xs : List α}
    (h : ∀ x ∈ xs, Yields P (f x) fun kept y => R kept x y) :
    Yields P (xs.mapM f) fun kept ys => List.Forall₂ (R kept) xs ys := by
  induction xs with
  | nil => exact fun s hs => ⟨.nil, fun _ h => h, hs⟩
  | cons x xs ih =>
      intro s hs
      have hrun : ((x :: xs).mapM f).run s =
          (((f x).run s).1 :: ((xs.mapM f).run ((f x).run s).2).1,
            ((xs.mapM f).run ((f x).run s).2).2) := by
        rw [List.mapM_cons]
        rfl
      obtain ⟨hx, hextends⟩ := h x List.mem_cons_self s hs
      obtain ⟨hxs, hrest⟩ := ih (fun y hy => h y (List.mem_cons_of_mem _ hy)) _ hextends.all
      rw [hrun]
      exact ⟨.cons (hlasting hrest.keys _ _ hx) hxs,
        fun name hname => hrest.keys name (hextends.keys name hname), hrest.all⟩

/-- What a property of kept resources needs in order to be preserved. `C` is what is known of the
levels that are left, the resources on the way and the resource itself. -/
structure Kept (index : SourceIndex) (C : Nat → List String → String → Prop)
    (P : ResourceCache → String → ResourceSchema → Prop) : Prop where
  /-- The property stays when more is kept. -/
  lasting : Lasting P
  /-- Resources without a method have it. -/
  plain : ∀ {kept name}, index.own? name = none → P kept name (index.schemaWith name [])
  /-- What is known stays known on the way down. -/
  follow : ∀ {levels visiting a b}, C (levels + 1) visiting a →
    b ∈ index.followed (levels + 1) visiting a → C levels (a :: visiting) b
  /-- A resource that is put together from such resources has it. -/
  join : ∀ {kept levels visiting name found}, C levels visiting name → name ∈ Table.keys kept →
    List.Forall₂ (P kept) (index.followed levels visiting name) found →
    P kept name (index.schemaWith name (found.foldl addResource []))

theorem AllKept.insert {before : ResourceCache} {name : String} {r : ResourceSchema}
    (hlasting : Lasting P) (h : AllKept P before) (hr : P (Table.insert before name r) name r) :
    AllKept P (Table.insert before name r) := by
  intro other r' hr'
  rw [Table.get?_insert] at hr'
  split at hr'
  · rename_i heq
    rw [← heq, ← Option.some.inj hr']
    exact hr
  · exact hlasting (fun _ hk => Table.mem_keys_insert.2 (.inr hk)) _ _ (h other r' hr')

/-- One resource, when the resources that are followed from it are as they should be. -/
theorem Kept.resource_of_followed {C : Nat → List String → String → Prop} (hkept : Kept index C P)
    {levels : Nat} {visiting : List String} {name : String} (hC : C levels visiting name)
    (hfollowed : ∀ b ∈ index.followed levels visiting name,
      Yields P (index.resource (levels - 1) (name :: visiting) b) fun kept r => P kept b r) :
    Yields P (index.resource levels visiting name) fun kept r => P kept name r := by
  intro s hs
  cases hknown : Table.get? s.cache name with
  | some r =>
      rw [resource_of_known hknown]
      exact ⟨hs name r hknown, fun _ h => h, hs⟩
  | none =>
      by_cases hown : index.own? name = none
      · -- without a method, the plain resource may be kept
        obtain ⟨s', hrun, hcache⟩ := resource_of_own?_eq_none hknown hown
        rw [hrun]
        refine ⟨hkept.plain hown, ?_⟩
        rcases hcache with hcache | hcache
        · rw [hcache]
          exact ⟨fun _ h => h, hs⟩
        · rw [hcache]
          exact ⟨fun _ h => Table.mem_keys_insert.2 (.inr h),
            hs.insert hkept.lasting (hkept.plain hown)⟩
      · -- with one, what is followed has the property when the resource is put together
        obtain ⟨issues, found, s', hfound, hrun⟩ := resource_of_own?_ne_none hknown hown
        obtain ⟨hall, hextends⟩ := Yields.mapM hkept.lasting hfollowed { s with issues } hs
        rw [hfound] at hall hextends
        rw [hrun]
        have hkeys : ∀ other ∈ Table.keys s'.cache, other ∈ Table.keys (Table.insert s'.cache name
            (index.schemaWith name (found.foldl addResource []))) :=
          fun _ h => Table.mem_keys_insert.2 (.inr h)
        have hjoin := hkept.join hC (Table.mem_keys_insert.2 (.inl rfl))
          (hall.imp (hkept.lasting hkeys))
        exact ⟨hjoin, fun other h => hkeys other (hextends.keys other h),
          hextends.all.insert hkept.lasting hjoin⟩

/-- The induction over levels: the result has the property, and so has whatever is kept. -/
theorem Kept.resource {C : Nat → List String → String → Prop} (hkept : Kept index C P)
    {levels : Nat} {visiting : List String} {name : String} (hC : C levels visiting name) :
    Yields P (index.resource levels visiting name) fun kept r => P kept name r := by
  induction levels generalizing visiting name with
  | zero => exact hkept.resource_of_followed hC fun _ hb => absurd hb List.not_mem_nil
  | succ levels ih =>
      exact hkept.resource_of_followed hC fun b hb => ih (hkept.follow hC hb)

/-! ### The way to a resource -/

/-- A resource is reached from `c` with the levels that are left, past the resources on the way. -/
structure Reached (index : SourceIndex) (c : String) (levels : Nat) (visiting : List String)
    (a : String) : Prop where
  /-- The levels that were used are the steps from `c`. -/
  levels_eq : ∃ k, k + levels = maxLevels ∧ index.Leads k c a
  /-- The resources on the way lead here. -/
  visiting : ∀ v ∈ visiting, ∃ k, index.Leads k v a

theorem Reached.start (c : String) : Reached index c maxLevels [] c :=
  ⟨⟨0, Nat.zero_add _, .here c⟩, fun _ hv => absurd hv List.not_mem_nil⟩

theorem Reached.follow {c a b : String} {levels : Nat} {visiting : List String}
    (h : Reached index c (levels + 1) visiting a)
    (hb : b ∈ index.followed (levels + 1) visiting a) :
    Reached index c levels (a :: visiting) b := by
  have hrefers := (mem_references_of_followed hb).1
  obtain ⟨k, hk, hleads⟩ := h.levels_eq
  refine ⟨⟨k + 1, by omega, hleads.trans (.one hrefers)⟩, fun v hv => ?_⟩
  rcases List.mem_cons.1 hv with rfl | hv
  · exact ⟨1, .one hrefers⟩
  · obtain ⟨k, hleads⟩ := h.visiting v hv
    exact ⟨k + 1, hleads.trans (.one hrefers)⟩

/-- Where chains end within the levels, every reference is followed. -/
theorem Reached.followed_eq {c a : String} {levels : Nat} {visiting : List String}
    (h : Reached index c levels visiting a) (hbounded : index.Bounded levels a) :
    index.followed levels visiting a = index.references a := by
  cases levels with
  | zero => exact hbounded.references_eq_nil.symm
  | succ levels =>
      refine List.filter_eq_self.2 fun b hb => decide_eq_true fun hv => ?_
      -- a reference to a resource on the way would close a cycle
      obtain ⟨k, hleads⟩ := h.visiting b hv
      exact (hbounded.of_refersTo hb).not_cyclic k (hleads.trans (.one hb))

/-! ### What every answer says -/

/-- A resource has its own name and schema, and each of its components is the schema of a resource
that it leads to, with a relation between the two. What has a method is kept. -/
structure Answers (index : SourceIndex) (Q : String → String → Prop) (kept : ResourceCache)
    (a : String) (r : ResourceSchema) : Prop where
  /-- The name. -/
  name : r.name = ClassName.base a
  /-- The schema. -/
  schema : r.schema = index.ownSchema a
  /-- A resource with a method is kept. -/
  known : index.own? a ≠ none → a ∈ Table.keys kept
  /-- Each component belongs to a resource. -/
  components : ∀ e ∈ r.components, ∃ b k, index.Leads (k + 1) a b ∧
    e = (ClassName.base b, index.ownSchema b) ∧
    (index.own? b ≠ none → b ∈ Table.keys kept) ∧ Q a b

/-- Answers are kept when the relation is passed on along the references that are followed. -/
theorem kept_answers {C : Nat → List String → String → Prop} {Q : String → String → Prop}
    (hfollow : ∀ {levels visiting a b}, C (levels + 1) visiting a →
      b ∈ index.followed (levels + 1) visiting a → C levels (a :: visiting) b)
    (hdirect : ∀ {levels visiting a b}, C levels visiting a →
      b ∈ index.followed levels visiting a → Q a b)
    (htrans : ∀ {levels visiting a b c}, C levels visiting a →
      b ∈ index.followed levels visiting a → Q b c → Q a c) :
    Kept index C (index.Answers Q) where
  lasting := by
    intro before after hkeys name r h
    refine ⟨h.name, h.schema, fun hown => hkeys _ (h.known hown), fun e he => ?_⟩
    obtain ⟨b, k, hleads, heq, hknown, hQ⟩ := h.components e he
    exact ⟨b, k, hleads, heq, fun hown => hkeys _ (hknown hown), hQ⟩
  plain := fun hown =>
    ⟨rfl, rfl, fun h => absurd hown h, fun _ he => absurd he List.not_mem_nil⟩
  follow := hfollow
  join := by
    intro kept levels visiting name found hC hname hfound
    refine ⟨rfl, rfl, fun _ => hname, fun e he => ?_⟩
    obtain ⟨r, hr, he⟩ := mem_foldl_addResource he
    -- the component comes from one of the resources that are followed
    obtain ⟨b, hb, hanswers⟩ := exists_of_forall₂ hfound.flip hr
    have hrefers := (mem_references_of_followed hb).1
    rcases he with rfl | he
    · exact ⟨b, 0, .one hrefers, by rw [hanswers.name, hanswers.schema], hanswers.known,
        hdirect hC hb⟩
    · obtain ⟨c, k, hleads, heq, hknown, hQ⟩ := hanswers.components e he
      exact ⟨c, k + 1, .step hrefers hleads, heq, hknown, htrans hC hb hQ⟩

theorem kept_sound : Kept index (fun _ _ _ => True) (index.Answers fun _ _ => True) :=
  kept_answers (fun _ _ => trivial) (fun _ _ => trivial) (fun _ _ _ => trivial)

/-- Below a resource, it is left out of all components. -/
theorem kept_avoiding (d : String) :
    Kept index (fun _ visiting a => a = d ∨ d ∈ visiting)
      (index.Answers fun a b => a ≠ d → b ≠ d) := by
  have hdirect : ∀ {levels visiting a b}, (a = d ∨ d ∈ visiting) →
      b ∈ index.followed levels visiting a → a ≠ d → b ≠ d := by
    rintro levels visiting a b hC hb hne rfl
    exact (mem_references_of_followed hb).2 (hC.resolve_left hne)
  refine kept_answers ?_ hdirect fun hC hb hQ hne => hQ (hdirect hC hb hne)
  rintro levels visiting a b (rfl | hmem) _
  · exact .inr List.mem_cons_self
  · exact .inr (List.mem_cons_of_mem _ hmem)

/-- Below a resource, all components lie within the levels from it. -/
theorem kept_near (d : String) :
    Kept index (Reached index d) (index.Answers fun _ b => ∃ k ≤ maxLevels, index.Leads k d b) := by
  refine kept_answers Reached.follow ?_ fun _ _ hQ => hQ
  intro levels visiting a b hC hb
  cases levels with
  | zero => exact absurd hb List.not_mem_nil
  | succ levels =>
      obtain ⟨k, hk, hleads⟩ := (hC.follow hb).levels_eq
      exact ⟨k, by omega, hleads⟩

/-- When nothing is known, every reference of a resource becomes a component. -/
theorem mem_keys_components {a b : String} (hab : index.RefersTo a b) (issues : List SourceIssue) :
    ClassName.base b ∈
      Table.keys ((index.resource maxLevels [] a).run { issues }).1.components := by
  obtain ⟨issues', found, s', hfound, hrun⟩ :=
    resource_of_own?_ne_none (s := { issues }) rfl hab.own?_ne_none
  obtain ⟨hall, _⟩ := Yields.mapM kept_sound.lasting (fun c _ => kept_sound.resource trivial)
    { issues := issues' } allKept_nil
  rw [hfound] at hall
  have hb : b ∈ index.followed maxLevels [] a :=
    List.mem_filter.2 ⟨hab, decide_eq_true List.not_mem_nil⟩
  obtain ⟨r, hr, hanswers⟩ := exists_of_forall₂ hall hb
  rw [hrun, ← hanswers.name]
  exact mem_keys_foldl_addResource hr

/-! ### Where nothing is cut off -/

/-- Where chains are short, what a resource leads to is kept with all that it leads to itself. -/
theorem kept_unfolded {c d : String} (hclear : index.Clear c d) :
    Kept index (Reached index c)
      (fun _ a r => (∃ k, index.Leads k d a) → r = index.unfolded maxLevels a) where
  lasting := fun _ _ _ _ _ h => h
  plain := by
    intro kept a hown _
    rw [maxLevels, unfolded, references_of_own?_eq_none hown]
    rfl
  follow := Reached.follow
  join := by
    rintro kept levels visiting a found hC _ hfound ⟨i, hda⟩
    obtain ⟨j, hj, hca⟩ := hC.levels_eq
    have hbounded : index.Bounded levels a := by
      intro k b hab
      have hjk := hclear i j k a b hda hca hab
      omega
    rw [hC.followed_eq hbounded] at hfound
    -- the references of a resource below `d` are below `d` as well
    have hbelow : ∀ b ∈ index.references a, ∃ k, index.Leads k d b :=
      fun b hb => ⟨i + 1, hda.trans (.one hb)⟩
    have hmap : (index.references a).map (index.unfolded maxLevels) = found := by
      have hall := (List.forall₂_and_left _ _).2 ⟨hbelow, hfound⟩
      have heq := List.forall₂_map_left_iff.2 (hall.imp fun b r h => (h.2 h.1).symm)
      rwa [List.forall₂_eq_eq_eq] at heq
    have hmax : index.Bounded maxLevels a := by
      intro k b hab
      have hk := hbounded k b hab
      omega
    rw [← hmap, ← hmax.unfolded_eq (Nat.le_succ _)]
    rfl

end SourceIndex

end RouteDoc.Source
