import RouteDoc.Proofs.Source.Resources
/-!
# RouteDoc.Proofs.Source.Caching

**Answers that depend on earlier ones.** What is found out about a resource is kept under its name
alone, although it was cut off where the levels ended or where it would have gone back to a resource
on the way. `answerAfter` is the answer to a call behind some others, and `answer` the one when
nothing is known yet; `caching_spec` says how the two compare:

* The shape is the same whatever came before, and no component is ever made up.
* Where no chain of references that comes through the described resources is longer than the levels,
  the whole answer is the same: nothing that it is made from was cut off.
* A first resource on a cycle, or from which another resource is too far away, makes some second
  answer differ. If none did, what the first call kept would hold everything that it leads to
  (`passed_on`), but answers leave out the resource that they are made for (`kept_avoiding`) and what
  is too far away from it (`kept_near`).
-/

namespace RouteDoc.Source

namespace SourceIndex

variable (index : SourceIndex)

/-- The resource that a collection collects. -/
def item? (name : String) : Option String := ((index.collectedItem? name).run {}).1

/-- The resource that is described under a name: of a collection, its items. -/
def described (name : String) : String := (index.item? name).getD name

/-- The answer that is made from a resource. -/
def response (call : String × Bool) (r : ResourceSchema) : ResponseShape × Table String Fragment :=
  ({ name := r.name, schema := r.schema, isCollection := call.2 || (index.item? call.1).isSome },
    r.components)

/-- Describe what a response is made from. -/
def describe (call : String × Bool) : ResourceM (ResponseShape × Table String Fragment) :=
  index.responseShape call.1 call.2

/-- What is known after some calls, one after another. -/
def stateAfter (calls : List (String × Bool)) : ResourceState :=
  calls.foldl (fun s call => ((index.describe call).run s).2) {}

/-- The answer to a call behind some others. -/
def answerAfter (calls : List (String × Bool)) (call : String × Bool) :
    ResponseShape × Table String Fragment :=
  ((index.describe call).run (index.stateAfter calls)).1

/-- The answer to a call when nothing is known yet. -/
def answer (call : String × Bool) : ResponseShape × Table String Fragment :=
  ((index.describe call).run {}).1

/-- An answer is made from a resource with a property. -/
def Answered (P : ResourceCache → String → ResourceSchema → Prop) (kept : ResourceCache)
    (call : String × Bool) (a : ResponseShape × Table String Fragment) : Prop :=
  ∃ r, P kept (index.described call.1) r ∧ a = index.response call r

variable {index}

/-! ### One answer -/

theorem run_collectedItem? (name : String) (s : ResourceState) :
    ∃ issues, (index.collectedItem? name).run s = (index.item? name, { s with issues }) := by
  unfold item? collectedItem?
  cases index.class? name with
  | none => exact ⟨_, rfl⟩
  | some found =>
      dsimp only
      split
      · exact ⟨_, rfl⟩
      · split
        · exact ⟨_, rfl⟩
        · split
          · exact ⟨_, rfl⟩
          · exact ⟨_, rfl⟩

theorem run_describe (call : String × Bool) (s : ResourceState) :
    ∃ issues, (index.describe call).run s =
      (index.response call
          ((index.resource maxLevels [] (index.described call.1)).run { s with issues }).1,
        ((index.resource maxLevels [] (index.described call.1)).run { s with issues }).2) := by
  obtain ⟨issues, hitem⟩ := run_collectedItem? call.1 s
  refine ⟨issues, ?_⟩
  simp only [describe, responseShape, StateT.run, bind, StateT.bind] at hitem ⊢
  rw [hitem]
  rfl

theorem describe_of_known (call : String × Bool) {s : ResourceState} {r : ResourceSchema}
    (h : Table.get? s.cache (index.described call.1) = some r) :
    ((index.describe call).run s).1 = index.response call r := by
  obtain ⟨issues, hrun⟩ := run_describe call s
  rw [hrun, resource_of_known (s := { s with issues }) h]

/-! ### All answers -/

variable {C : Nat → List String → String → Prop} {P : ResourceCache → String → ResourceSchema → Prop}

theorem Kept.describe (hkept : Kept index C P) {call : String × Bool}
    (hC : C maxLevels [] (index.described call.1)) :
    Yields P (index.describe call) fun kept a => index.Answered P kept call a := by
  intro s hs
  obtain ⟨issues, hrun⟩ := run_describe call s
  obtain ⟨hr, hextends⟩ := hkept.resource hC { s with issues } hs
  rw [hrun]
  exact ⟨⟨_, hr, rfl⟩, hextends⟩

/-- Whatever is described, what is kept has the property. -/
theorem allKept_stateAfter {R : String × Bool → ResourceCache →
      ResponseShape × Table String Fragment → Prop} {calls : List (String × Bool)}
    (h : ∀ call ∈ calls, Yields P (index.describe call) (R call)) :
    AllKept P (index.stateAfter calls).cache := by
  induction calls using List.reverseRecOn with
  | nil => exact allKept_nil
  | append_singleton calls call ih =>
      have hcalls := ih fun other hother => h other (List.mem_append_left _ hother)
      rw [stateAfter, List.foldl_append]
      exact (h call (by simp) _ hcalls).2.all

/-- Each answer is made from a resource with the property. -/
theorem answered_answerAfter {calls : List (String × Bool)} {call : String × Bool}
    (h : ∀ other ∈ call :: calls,
      Yields P (index.describe other) fun kept a => index.Answered P kept other a) :
    ∃ kept, index.Answered P kept call (index.answerAfter calls call) := by
  have hcalls := allKept_stateAfter fun other hother => h other (List.mem_cons_of_mem _ hother)
  obtain ⟨hanswered, _⟩ := h call List.mem_cons_self (index.stateAfter calls) hcalls
  exact ⟨_, hanswered⟩

/-! ### Where a later answer differs -/

/-- The resources that one leads to can be told apart by their short names, and none of them is a
collection of others. -/
structure Separate (index : SourceIndex) (d : String) : Prop where
  /-- Short names are told apart. -/
  names : ∀ {a b j k}, index.Leads j d a → index.Leads k d b →
    ClassName.base a = ClassName.base b → a = b
  /-- Each is described itself. -/
  items : ∀ {a k}, index.Leads k d a → index.described a = a

/-- It is enough to look at some resources that refer to each other only. -/
theorem separate_of_closed (names : List String) {d : String} (hd : d ∈ names)
    (hclosed : ∀ a ∈ names, ∀ b ∈ index.references a, b ∈ names)
    (hnames : ∀ a ∈ names, ∀ b ∈ names, ClassName.base a = ClassName.base b → a = b)
    (hitems : ∀ a ∈ names, index.described a = a) : Separate index d where
  names := fun ha hb => hnames _ (ha.mem_of_closed hclosed hd) _ (hb.mem_of_closed hclosed hd)
  items := fun ha => hitems _ (ha.mem_of_closed hclosed hd)

section

variable {Q : String → String → Prop} {first : String × Bool}
  (hkept : Kept index C (index.Answers Q)) (hC : C maxLevels [] (index.described first.1))
  (hseparate : Separate index (index.described first.1))

include hkept hC hseparate

/-- If describing a resource next gives the fresh answer, then what the first call kept of it holds
every resource that it refers to. -/
theorem passed_on_of_kept {a b : String} {k : Nat} (ha : index.Leads k (index.described first.1) a)
    (hmem : a ∈ Table.keys (index.stateAfter [first]).cache)
    (hsame : index.answerAfter [first] (a, false) = index.answer (a, false))
    (hab : index.RefersTo a b) :
    (index.own? b ≠ none → b ∈ Table.keys (index.stateAfter [first]).cache) ∧ Q a b := by
  obtain ⟨r, hr⟩ := Table.mem_keys_iff.1 hmem
  -- what was kept of `a` is the answer, and that has to be the fresh one
  have hcomponents : r.components = (index.answer (a, false)).2 := by
    rw [← hseparate.items ha] at hr
    rw [← hsame, answerAfter, describe_of_known (a, false) hr]
    rfl
  have hkey : ClassName.base b ∈ Table.keys r.components := by
    obtain ⟨issues, hrun⟩ := run_describe (a, false) {}
    rw [hcomponents, answer, hrun, hseparate.items ha]
    exact mem_keys_components hab issues
  obtain ⟨e, he, hbase⟩ := List.mem_map.1 hkey
  obtain ⟨_, hextends⟩ := hkept.describe hC {} allKept_nil
  obtain ⟨c, j, hleads, rfl, hknown, hQ⟩ := (hextends.all a r hr).components e he
  obtain rfl : c = b := hseparate.names (ha.trans hleads) (ha.trans (.one hab)) hbase
  exact ⟨hknown, hQ⟩

/-- If no second answer differs from a fresh one, every reference below the first resource has every
relation that is passed on along references that are followed. -/
theorem passed_on {a b : String} {k : Nat}
    (hsame : ∀ other, index.answerAfter [first] (other, false) = index.answer (other, false))
    (ha : index.Leads k (index.described first.1) a) (hab : index.RefersTo a b) : Q a b := by
  have hmem : ∀ {k a}, index.Leads k (index.described first.1) a → index.own? a ≠ none →
      a ∈ Table.keys (index.stateAfter [first]).cache := by
    intro k
    induction k with
    | zero =>
        intro a ha hown
        cases ha
        obtain ⟨⟨r, hr, _⟩, _⟩ := hkept.describe hC {} allKept_nil
        exact hr.known hown
    | succ k ih =>
        intro a ha hown
        obtain ⟨c, hc, hca⟩ := ha.last
        have hcmem := ih hc hca.own?_ne_none
        exact (passed_on_of_kept hkept hC hseparate hc hcmem (hsame c) hca).1 hown
  have hamem := hmem ha hab.own?_ne_none
  exact (passed_on_of_kept hkept hC hseparate ha hamem (hsame a) hab).2

/-- A relation that answers pass on and that some reference lacks makes a second answer differ. -/
theorem exists_ne_of_not {a b : String} {k : Nat} (ha : index.Leads k (index.described first.1) a)
    (hab : index.RefersTo a b) (hnot : ¬ Q a b) :
    ∃ other, index.answerAfter [first] (other, false) ≠ index.answer (other, false) := by
  by_contra hno
  have hsame : ∀ other, index.answerAfter [first] (other, false) = index.answer (other, false) :=
    fun other => not_not.1 fun hne => hno ⟨other, hne⟩
  exact hnot (passed_on hkept hC hseparate hsame ha hab)

end

/-! ### Where answers are the same -/

/-- The shape in an answer is the resource's own. -/
def shapeOf (index : SourceIndex) (call : String × Bool) : ResponseShape :=
  { name := ClassName.base (index.described call.1)
    schema := index.ownSchema (index.described call.1)
    isCollection := call.2 || (index.item? call.1).isSome }

theorem answered_sound (calls : List (String × Bool)) (call : String × Bool) :
    ∃ kept, index.Answered (index.Answers fun _ _ => True) kept call
      (index.answerAfter calls call) :=
  answered_answerAfter fun _ _ => kept_sound.describe trivial

theorem fst_answerAfter (calls : List (String × Bool)) (call : String × Bool) :
    (index.answerAfter calls call).1 = index.shapeOf call := by
  obtain ⟨kept, r, hr, heq⟩ := index.answered_sound calls call
  rw [heq, response, shapeOf, hr.name, hr.schema]

/-- Where chains are short, the answer is made from everything that a resource leads to. -/
theorem answerAfter_of_clear {calls : List (String × Bool)} {call : String × Bool}
    (h : ∀ other ∈ call :: calls, index.Clear (index.described other.1) (index.described call.1)) :
    index.answerAfter calls call =
      index.response call (index.unfolded maxLevels (index.described call.1)) := by
  obtain ⟨kept, r, hr, heq⟩ := answered_answerAfter fun other hother =>
    (kept_unfolded (h other hother)).describe (Reached.start _)
  rw [heq, hr ⟨0, .here _⟩]

/-! ### Earlier and later answers -/

/-- How answers behind some others compare with answers when nothing is known yet. -/
structure Caching (index : SourceIndex) : Prop where
  /-- Shapes are the same, whatever was described before. -/
  shape : ∀ calls call, (index.answerAfter calls call).1 = (index.answer call).1
  /-- Components are never made up: each is the schema of a resource that the described one leads
  to, under its short name. -/
  components : ∀ calls call, ∀ e ∈ (index.answerAfter calls call).2, ∃ b k,
    index.Leads (k + 1) (index.described call.1) b ∧ e = (ClassName.base b, index.ownSchema b)
  /-- Whole answers are the same where no chain from a described resource that comes through what
  the last one leads to is longer than the levels. -/
  same : ∀ calls call, (∀ other ∈ call :: calls,
      index.Clear (index.described other.1) (index.described call.1)) →
    index.answerAfter calls call = index.answer call
  /-- Some second answer differs where the first resource is on a cycle of references, or leads to
  one that is further away than the levels. -/
  differ : ∀ first, Separate index (index.described first.1) →
    ((∃ k, index.Leads (k + 1) (index.described first.1) (index.described first.1)) ∨
      ∃ b, (∃ k, index.Leads k (index.described first.1) b) ∧
        ∀ k ≤ maxLevels, ¬ index.Leads k (index.described first.1) b) →
    ∃ other, index.answerAfter [first] (other, false) ≠ index.answer (other, false)

theorem caching_spec (index : SourceIndex) : Caching index where
  shape := fun calls call => (fst_answerAfter calls call).trans (fst_answerAfter [] call).symm
  components := by
    intro calls call e he
    obtain ⟨kept, r, hr, heq⟩ := index.answered_sound calls call
    rw [heq] at he
    obtain ⟨b, k, hleads, heq, _⟩ := hr.components e he
    exact ⟨b, k, hleads, heq⟩
  same := by
    intro calls call hclear
    have hself : ∀ other ∈ [call],
        index.Clear (index.described other.1) (index.described call.1) := by
      intro other hother
      rw [List.mem_singleton.1 hother]
      exact hclear call List.mem_cons_self
    have hfresh : index.answerAfter [] call = _ := answerAfter_of_clear hself
    exact (answerAfter_of_clear hclear).trans hfresh.symm
  differ := by
    rintro first hseparate (⟨k, hcycle⟩ | ⟨b, ⟨k, hleads⟩, hfar⟩)
    · obtain ⟨a, ha, hlast⟩ := hcycle.last
      exact exists_ne_of_not (kept_avoiding _) (.inl rfl) hseparate ha hlast
        fun hQ => hQ hlast.ne.symm rfl
    · cases k with
      | zero => exact absurd hleads (hfar 0 (Nat.zero_le _))
      | succ k =>
          obtain ⟨a, ha, hlast⟩ := hleads.last
          refine exists_ne_of_not (kept_near _) (Reached.start _) hseparate ha hlast ?_
          rintro ⟨j, hj, hleads⟩
          exact hfar j hj hleads

/-! ### A small code base -/

/-- A resource in a file of its own, whose method returns an array with one item. -/
def resourceFile (name : String) (item : Syntax) : List String × SourceFile :=
  (["app", name ++ ".php"],
    { nodes := [.classDeclaration name (some "JsonResource") none "" [
        .method "toArray" [] [.returned [.array [.item [.string "'item'" []] [item] false]]]]] })

/-- Posts with a comment that has its post, and authors with a country that has a name. -/
def blog : SourceIndex where
  root := "."
  namespaces := [("", "app")]
  files := ⟨[resourceFile "Post" (.staticCall "Comment" "make" [] []),
    resourceFile "Comment" (.staticCall "Post" "make" [] []),
    resourceFile "Author" (.staticCall "Country" "make" [] []),
    resourceFile "Country" (.property false (.variable "$this") "name" [])]⟩

theorem closed_posts : ∀ a ∈ ["Post", "Comment"], ∀ b ∈ blog.references a,
    b ∈ ["Post", "Comment"] := by
  decide +kernel

theorem separate_post : Separate blog "Post" :=
  separate_of_closed ["Post", "Comment"] List.mem_cons_self closed_posts (by decide +kernel)
    (by decide +kernel)

theorem cyclic_post : blog.Leads 2 "Post" "Post" := by
  have hpost : "Comment" ∈ blog.references "Post" := by decide +kernel
  have hcomment : "Post" ∈ blog.references "Comment" := by decide +kernel
  exact .step hpost (.one hcomment)

theorem clear_author : ∀ c ∈ ["Author", "Post"], blog.Clear c "Author" := by
  have hbounded : blog.Bounded maxLevels "Author" := by decide +kernel
  have hclosed : ∀ a ∈ ["Author", "Country"], ∀ b ∈ blog.references a,
      b ∈ ["Author", "Country"] := by decide +kernel
  have hpost : ∀ k, ∀ a ∈ ["Author", "Country"], ¬ blog.Leads k "Post" a := by
    intro k a ha hleads
    have hmem := hleads.mem_of_closed closed_posts List.mem_cons_self
    simp only [List.mem_cons, List.not_mem_nil, or_false] at ha hmem
    rcases ha with rfl | rfl <;> simp at hmem
  intro c hc
  simp only [List.mem_cons, List.not_mem_nil, or_false] at hc
  rcases hc with rfl | rfl
  · exact hbounded.clear _
  · exact clear_of_closed hclosed List.mem_cons_self hpost

/-- Described after its post, the comment is without it. -/
theorem answerAfter_post :
    (blog.answerAfter [("Post", false)] ("Comment", false)).2 = [] ∧
      (blog.answer ("Comment", false)).2 = [("Post", blog.ownSchema "Post")] := by
  decide +kernel

/-- Authors are the same after posts, which lead to none of them. -/
theorem caching_spec_blog :
    blog.answerAfter [("Post", false)] ("Author", true) = blog.answer ("Author", true) ∧
      ∃ other, blog.answerAfter [("Post", false)] (other, false) ≠ blog.answer (other, false) := by
  have hpost : blog.described "Post" = "Post" := by decide +kernel
  have hauthor : blog.described "Author" = "Author" := by decide +kernel
  refine ⟨(caching_spec blog).same [("Post", false)] ("Author", true) ?_,
    (caching_spec blog).differ ("Post", false) ?_ (.inl ⟨1, ?_⟩)⟩
  · intro other hother
    simp only [List.mem_cons, List.not_mem_nil, or_false] at hother
    rcases hother with rfl | rfl
    · rw [hauthor]
      exact clear_author _ List.mem_cons_self
    · rw [hpost, hauthor]
      exact clear_author _ (List.mem_cons_of_mem _ List.mem_cons_self)
  · rw [hpost]
    exact separate_post
  · rw [hpost]
    exact cyclic_post

end SourceIndex

end RouteDoc.Source
