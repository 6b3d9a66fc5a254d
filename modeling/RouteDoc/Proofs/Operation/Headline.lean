import RouteDoc.Operation.Naming
import RouteDoc.Proofs.Store.Memory
/-!
# RouteDoc.Proofs.Operation.Headline

**A headline is a name that was spaced out and capitalised.** Its words are the words of the name,
each with a capital, and a second headline finds nothing more to do.

* `NoStart` says that no word starts inside a text. It holds of a text that was spaced out
  (`noStart_spaceOutFrom`), and whatever is done afterwards keeps it: marks turn into blanks, the
  text is cut into words, the words get capitals and are put together again. No word starts behind
  a new capital, for the small letter that it was would have been divided from a capital behind it
  (`NoStart.toUpper`).
* `IsWord` is what is known of the words that come out. Words of this kind are the words of the text
  they make (`wordsOf_intercalate`).
-/

namespace RouteDoc.Headline

open Text

/-! ### Where words start -/

theorem isSmall_of_isCapital {c : Char} (h : isCapital c = true) : isSmall c = false := by
  have hlast : c ≤ 'Z' := of_decide_eq_true (Bool.and_eq_true_iff.1 h).2
  have hnot : ¬ 'a' ≤ c := fun hfirst => absurd (Char.le_trans hfirst hlast) (by decide)
  rw [isSmall, decide_eq_false hnot, Bool.false_and]

theorem startsWord_of_not_isCapital {c : Char} (h : isCapital c = false) (before : Char)
    (rest : List Char) : startsWord before c rest = false := by
  rw [startsWord, h, Bool.false_and]

theorem startsWord_blank (before : Char) (rest : List Char) : startsWord before ' ' rest = false :=
  startsWord_of_not_isCapital (by decide) before rest

theorem startsWord_behind_blank (c : Char) (rest : List Char) : startsWord ' ' c rest = false := by
  have hcapital : isCapital ' ' = false := by decide
  have hsmall : isSmall ' ' = false := by decide
  have hdigit : ' '.isDigit = false := by decide
  rw [startsWord, hcapital, hsmall, hdigit, Bool.false_and, Bool.or_self, Bool.or_self,
    Bool.and_false]

/-- A start at the end of a text is one before anything else. -/
theorem startsWord_of_last {before c : Char} (h : startsWord before c [] = true)
    (rest : List Char) : startsWord before c rest = true := by
  simp only [startsWord, List.head?_nil, Option.map_none, Option.getD_none, Bool.and_false,
    Bool.or_false, Bool.and_eq_true] at h
  rw [startsWord, h.1, h.2, Bool.true_or, Bool.and_true]

/-- Whether a word starts depends on the next character only by whether it is small, and no blank is
put before a small letter. -/
theorem startsWord_spaceOutFrom (before c d : Char) (rest : List Char) :
    startsWord before c (spaceOutFrom d rest) = startsWord before c rest := by
  cases rest with
  | nil => rfl
  | cons e rest =>
      rw [spaceOutFrom]
      split
      · rename_i h
        have hcapital : isCapital e = true := (Bool.and_eq_true_iff.1 h).1
        have hblank : isSmall ' ' = false := by decide
        simp [startsWord, isSmall_of_isCapital hcapital, hblank]
      · rfl

/-- No word starts inside a text that stands behind a character. -/
def NoStart : Char → List Char → Prop
  | _, [] => True
  | before, c :: rest => startsWord before c rest = false ∧ NoStart c rest

namespace NoStart

variable {before : Char} {cs ds : List Char}

/-- Behind a blank there is one place less where a word could start. -/
theorem behind_blank (h : NoStart before cs) : NoStart ' ' cs := by
  cases cs with
  | nil => trivial
  | cons c rest => exact ⟨startsWord_behind_blank c rest, h.2⟩

theorem of_append_left (h : NoStart before (cs ++ ds)) : NoStart before cs := by
  induction cs generalizing before with
  | nil => trivial
  | cons c rest ih =>
      refine ⟨?_, ih h.2⟩
      cases rest with
      | nil =>
          have hstart : ¬ startsWord before c ds = true := Bool.eq_false_iff.1 h.1
          exact Bool.eq_false_iff.2 fun hlast => hstart (startsWord_of_last hlast ds)
      | cons d rest => exact h.1

theorem of_append_right (h : NoStart before (cs ++ ds)) : NoStart ' ' ds := by
  induction cs generalizing before with
  | nil => exact h.behind_blank
  | cons c rest ih => exact ih h.2

theorem of_inner (h : NoStart before cs) (hds : ds <:+: cs) : NoStart ' ' ds := by
  obtain ⟨front, back, rfl⟩ := hds
  exact h.of_append_left.of_append_right

theorem append_blank (hcs : NoStart before cs) (hds : NoStart ' ' ds) :
    NoStart before (cs ++ ' ' :: ds) := by
  induction cs generalizing before with
  | nil => exact ⟨startsWord_blank _ _, hds⟩
  | cons c rest ih =>
      refine ⟨?_, ih hcs.2⟩
      -- a blank is no small letter, so it is like the end
      cases rest <;> exact hcs.1

theorem intercalate {ws : List (List Char)} (h : ∀ w ∈ ws, NoStart ' ' w) :
    NoStart ' ' ([' '].intercalate ws) := by
  induction ws with
  | nil => trivial
  | cons w ws ih =>
      have hw := h w List.mem_cons_self
      cases ws with
      | nil => rwa [List.intercalate_singleton]
      | cons v vs =>
          rw [List.intercalate_cons_cons, List.append_assoc]
          exact hw.append_blank (ih fun u hu => h u (List.mem_cons_of_mem _ hu))

end NoStart

/-! ### Spacing out -/

theorem spaceOut_eq (cs : List Char) : spaceOut cs = spaceOutFrom ' ' cs := by
  cases cs with
  | nil => rfl
  | cons c rest => rw [spaceOut, spaceOutFrom, startsWord_behind_blank, if_neg Bool.false_ne_true]

theorem spaceOutFrom_eq_self {before : Char} {cs : List Char} (h : NoStart before cs) :
    spaceOutFrom before cs = cs := by
  induction cs generalizing before with
  | nil => rfl
  | cons c rest ih => rw [spaceOutFrom, h.1, if_neg Bool.false_ne_true, ih h.2]

theorem noStart_spaceOutFrom (before : Char) (cs : List Char) :
    NoStart before (spaceOutFrom before cs) := by
  induction cs generalizing before with
  | nil => trivial
  | cons c rest ih =>
      rw [spaceOutFrom]
      split
      · exact ⟨startsWord_blank _ _, startsWord_behind_blank _ _, ih c⟩
      · rename_i h
        refine ⟨?_, ih c⟩
        rw [startsWord_spaceOutFrom]
        exact Bool.eq_false_iff.2 h

theorem filter_spaceOutFrom {p : Char → Bool} (hp : p ' ' = false) (before : Char)
    (cs : List Char) : (spaceOutFrom before cs).filter p = cs.filter p := by
  induction cs generalizing before with
  | nil => rfl
  | cons c rest ih =>
      have hrest : (c :: spaceOutFrom c rest).filter p = (c :: rest).filter p := by
        rw [List.filter_cons, List.filter_cons, ih]
      rw [spaceOutFrom]
      split
      · rw [List.filter_cons_of_neg (by simp [hp]), hrest]
      · exact hrest

/-! ### Marks that turn into blanks -/

/-- The characters are alike for the starts of words. -/
structure SameKind (c d : Char) : Prop where
  isCapital_eq : isCapital c = isCapital d
  isSmall_eq : isSmall c = isSmall d
  isDigit_eq : c.isDigit = d.isDigit

theorem sameKind_blank {mark : Char} (h : mark = '_' ∨ mark = '-') (c : Char) :
    SameKind (if c = mark then ' ' else c) c := by
  split
  · rename_i hc
    subst hc
    rcases h with rfl | rfl
    · exact ⟨by decide, by decide, by decide⟩
    · exact ⟨by decide, by decide, by decide⟩
  · exact ⟨rfl, rfl, rfl⟩

theorem startsWord_map {f : Char → Char} (hf : ∀ c, SameKind (f c) c) (before c : Char)
    (rest : List Char) : startsWord (f before) (f c) (rest.map f) = startsWord before c rest := by
  have hhead : (rest.map f).head?.map isSmall = rest.head?.map isSmall := by
    cases rest with
    | nil => rfl
    | cons d rest => exact congrArg some (hf d).isSmall_eq
  rw [startsWord, startsWord, (hf c).isCapital_eq, (hf before).isCapital_eq,
    (hf before).isSmall_eq, (hf before).isDigit_eq, hhead]

theorem NoStart.map {f : Char → Char} (hf : ∀ c, SameKind (f c) c) {before : Char}
    {cs : List Char} (h : NoStart before cs) : NoStart (f before) (cs.map f) := by
  induction cs generalizing before with
  | nil => trivial
  | cons c rest ih =>
      refine ⟨?_, ih h.2⟩
      rw [startsWord_map hf]
      exact h.1

/-- A name with blanks between its words. -/
def spacedOut (cs : List Char) : List Char := swapChars '-' ' ' (swapChars '_' ' ' (spaceOut cs))

theorem noStart_spacedOut (cs : List Char) : NoStart ' ' (spacedOut cs) := by
  have hspaced := noStart_spaceOutFrom ' ' cs
  rw [← spaceOut_eq] at hspaced
  have hlow := hspaced.map (sameKind_blank (.inl rfl))
  exact (hlow.map (sameKind_blank (.inr rfl))).behind_blank

theorem spacedOut_eq_self {cs : List Char} (h : NoStart ' ' cs) (hlow : '_' ∉ cs)
    (hdash : '-' ∉ cs) : spacedOut cs = cs := by
  rw [spacedOut, spaceOut_eq, spaceOutFrom_eq_self h, swapChars_eq_self hlow,
    swapChars_eq_self hdash]

/-! ### Words of a name -/

/-- Whether a character stands between words and not in them. -/
def separates (c : Char) : Bool := isBlank c || c = '_' || c = '-'

/-- A text without what stands between its words. -/
def unspaced (s : String) : List Char := s.toList.filter fun c => !separates c

/-- The words of a name. -/
def wordsOf (s : String) : List (List Char) := wordsChars (spacedOut s.toList)

/-- Nothing of a name gets lost but what stands between its words. -/
theorem flatten_wordsOf (s : String) : (wordsOf s).flatten = unspaced s := by
  rw [wordsOf, flatten_wordsChars, spacedOut, filter_swapChars (by decide),
    filter_swapChars (by decide), spaceOut_eq, filter_spaceOutFrom (by decide)]
  refine List.filter_congr fun c _ => ?_
  simp only [separates, Bool.not_or, decide_not, Bool.and_right_comm]

/-- What is known of a word of a name. -/
structure IsWord (w : List Char) : Prop where
  ne_nil : w ≠ []
  isAscii : ∀ c ∈ w, isAscii c = true
  not_separates : ∀ c ∈ w, separates c = false
  noStart : NoStart ' ' w

theorem isWord_of_mem_wordsOf {s : String} (h : IsAscii s) {w : List Char} (hw : w ∈ wordsOf s) :
    IsWord w := by
  have hletters : ∀ c ∈ w, c ∈ s.toList ∧ separates c = false := by
    intro c hc
    have hmem : c ∈ unspaced s := flatten_wordsOf s ▸ List.mem_flatten_of_mem hw hc
    simpa [unspaced] using hmem
  exact {
    ne_nil := by simpa using (List.mem_filter.1 hw).2
    isAscii := fun c hc => h c (hletters c hc).1
    not_separates := fun c hc => (hletters c hc).2
    noStart := (noStart_spacedOut s.toList).of_inner (infix_of_mem_wordsChars hw) }

theorem isBlank_of_isWord {w : List Char} (h : IsWord w) {c : Char} (hc : c ∈ w) :
    isBlank c = false := by
  have hnot := h.not_separates c hc
  simp only [separates, Bool.or_eq_false_iff] at hnot
  exact hnot.1.1

theorem mem_or_mem_of_mem_intercalate {α : Type} {between : List α} {ws : List (List α)} {a : α}
    (h : a ∈ between.intercalate ws) : a ∈ between ∨ ∃ w ∈ ws, a ∈ w := by
  induction ws with
  | nil => cases h
  | cons w ws ih =>
      cases ws with
      | nil => exact .inr ⟨w, List.mem_cons_self, by rwa [List.intercalate_singleton] at h⟩
      | cons v vs =>
          rw [List.intercalate_cons_cons, List.append_assoc, List.mem_append, List.mem_append] at h
          rcases h with h | h | h
          · exact .inr ⟨w, List.mem_cons_self, h⟩
          · exact .inl h
          · exact (ih h).imp_right fun ⟨u, hu, ha⟩ => ⟨u, List.mem_cons_of_mem w hu, ha⟩

theorem mark_not_mem_intercalate {ws : List (List Char)} (h : ∀ w ∈ ws, IsWord w) {mark : Char}
    (hmark : separates mark = true) (hblank : mark ≠ ' ') : mark ∉ [' '].intercalate ws := by
  intro hmem
  rcases mem_or_mem_of_mem_intercalate hmem with hc | ⟨w, hw, hc⟩
  · exact hblank (List.mem_singleton.1 hc)
  · exact Bool.eq_false_iff.1 ((h w hw).not_separates mark hc) hmark

/-- Words with blanks between them are the words of the text that they make. -/
theorem wordsOf_intercalate {s : String} {ws : List (List Char)} (h : ∀ w ∈ ws, IsWord w)
    (hs : s.toList = [' '].intercalate ws) : wordsOf s = ws := by
  rw [wordsOf, hs, spacedOut_eq_self (.intercalate fun w hw => (h w hw).noStart)
      (mark_not_mem_intercalate h (by decide) (by decide))
      (mark_not_mem_intercalate h (by decide) (by decide)),
    wordsChars_intercalate (fun w hw => (h w hw).ne_nil) fun w hw _ hc =>
      isBlank_of_isWord (h w hw) hc]

/-! ### Capitals -/

/-- A word with its first character in upper case. -/
def capitalise : List Char → List Char
  | [] => []
  | c :: rest => c.toUpper :: rest

/-- What holds of each of the 128 characters of ASCII. -/
theorem forall_ascii {P : Char → Prop} (h : ∀ n < 128, P (Char.ofNat n)) {c : Char}
    (hc : isAscii c = true) : P c := by
  have hn := h c.toNat (of_decide_eq_true hc)
  rwa [Char.ofNat_toNat] at hn

theorem separates_toUpper {c : Char} (h : isAscii c = true) :
    separates c.toUpper = separates c :=
  forall_ascii (P := fun c => separates c.toUpper = separates c) (by decide) h

theorem toLower_toUpper {c : Char} (h : isAscii c = true) : c.toUpper.toLower = c.toLower :=
  forall_ascii (P := fun c => c.toUpper.toLower = c.toLower) (by decide) h

theorem toUpper_of_not_isSmall {c : Char} (h : isAscii c = true) :
    isSmall c = false → c.toUpper = c :=
  forall_ascii (P := fun c => isSmall c = false → c.toUpper = c) (by decide) h

/-- No word starts behind a new capital: what stands behind a small letter is no capital. -/
theorem NoStart.toUpper {c : Char} {rest : List Char} (hc : isAscii c = true)
    (h : NoStart c rest) : NoStart c.toUpper rest := by
  cases rest with
  | nil => trivial
  | cons d rest =>
      refine ⟨?_, h.2⟩
      cases hsmall : isSmall c with
      | false =>
          rw [toUpper_of_not_isSmall hc hsmall]
          exact h.1
      | true =>
          have hd : isCapital d = false := by simpa [startsWord, hsmall] using h.1
          exact startsWord_of_not_isCapital hd _ _

theorem isWord_capitalise {w : List Char} (h : IsWord w) : IsWord (capitalise w) := by
  cases w with
  | nil => exact h
  | cons c rest =>
      have hc := h.isAscii c List.mem_cons_self
      refine ⟨List.cons_ne_nil _ _, ?_, ?_, startsWord_behind_blank _ _, h.noStart.2.toUpper hc⟩
      · exact List.forall_mem_cons.2
          ⟨(toUpper_ascii hc).1, fun d hd => h.isAscii d (List.mem_cons_of_mem c hd)⟩
      · exact List.forall_mem_cons.2
          ⟨(separates_toUpper hc).trans (h.not_separates c List.mem_cons_self),
            fun d hd => h.not_separates d (List.mem_cons_of_mem c hd)⟩

theorem capitalise_capitalise {w : List Char} (h : IsWord w) :
    capitalise (capitalise w) = capitalise w := by
  cases w with
  | nil => rfl
  | cons c rest =>
      exact congrArg (· :: rest) (toUpper_ascii (h.isAscii c List.mem_cons_self)).2

theorem map_toLower_capitalise {w : List Char} (h : IsWord w) :
    (capitalise w).map Char.toLower = w.map Char.toLower := by
  cases w with
  | nil => rfl
  | cons c rest =>
      have hc := toLower_toUpper (h.isAscii c List.mem_cons_self)
      rw [capitalise, List.map_cons, List.map_cons, hc]

theorem toList_upperFirst {w : List Char} (h : IsWord w) :
    (upperFirst (String.ofList w)).toList = capitalise w := by
  cases w with
  | nil => rfl
  | cons c rest =>
      simp [upperFirst, upperChar, capitalise, h.isAscii c List.mem_cons_self]

/-! ### Headlines -/

/-- A headline is the words of the name, each with a capital, with blanks between them. -/
theorem toList_headline {name : String} (h : ∀ w ∈ wordsOf name, IsWord w) :
    (headline name).toList = [' '].intercalate ((wordsOf name).map capitalise) := by
  have hwords : (wordsOf name).map (String.toList ∘ upperFirst ∘ String.ofList) =
      (wordsOf name).map capitalise :=
    List.map_congr_left fun w hw => toList_upperFirst (h w hw)
  have hheadline : headline name =
      String.intercalate " " ((wordsOf name).map (upperFirst ∘ String.ofList)) := by
    rw [headline, words, String.toList_ofList, List.map_map]
    rfl
  rw [hheadline, String.toList_intercalate, List.map_map, hwords]
  rfl

/-- The words of a headline. -/
theorem wordsOf_headline {name : String} (h : IsAscii name) :
    wordsOf (headline name) = (wordsOf name).map capitalise := by
  have hwords := fun w hw => isWord_of_mem_wordsOf h (w := w) hw
  refine wordsOf_intercalate (fun v hv => ?_) (toList_headline hwords)
  obtain ⟨w, hw, rfl⟩ := List.mem_map.1 hv
  exact isWord_capitalise (hwords w hw)

theorem headline_headline {name : String} (h : IsAscii name) :
    headline (headline name) = headline name := by
  have hwords := fun w hw => isWord_of_mem_wordsOf h (w := w) hw
  have hcapitals : ∀ v ∈ wordsOf (headline name), IsWord v := by
    rw [wordsOf_headline h]
    exact List.forall_mem_map.2 fun w hw => isWord_capitalise (hwords w hw)
  have hagain : ((wordsOf name).map capitalise).map capitalise = (wordsOf name).map capitalise := by
    rw [List.map_map]
    exact List.map_congr_left fun w hw => capitalise_capitalise (hwords w hw)
  rw [← String.toList_inj, toList_headline hcapitals, wordsOf_headline h, hagain,
    toList_headline hwords]

/-- **A headline only spaces and capitalises.** A second one changes nothing. Without what stands
between words, name and headline are the same in lower case; and what was the name without it, cut
into words, is the words of the headline but for the capital at the front of each. -/
theorem headline_spaces_and_capitalises {name : String} (h : IsAscii name) :
    headline (headline name) = headline name ∧
    (unspaced (headline name)).map Char.toLower = (unspaced name).map Char.toLower ∧
    ∃ ws : List (List Char), unspaced name = ws.flatten ∧
      words (headline name) = ws.map (fun w => String.ofList (capitalise w)) ∧
      unspaced (headline name) = (ws.map capitalise).flatten := by
  have hwords := fun w hw => isWord_of_mem_wordsOf h (w := w) hw
  have hletters : unspaced (headline name) = ((wordsOf name).map capitalise).flatten := by
    rw [← flatten_wordsOf, wordsOf_headline h]
  refine ⟨headline_headline h, ?_, wordsOf name, (flatten_wordsOf name).symm, ?_, hletters⟩
  · have hlower : (wordsOf name).map (List.map Char.toLower ∘ capitalise) =
        (wordsOf name).map (List.map Char.toLower) :=
      List.map_congr_left fun w hw => map_toLower_capitalise (hwords w hw)
    rw [hletters, ← flatten_wordsOf, List.map_flatten, List.map_flatten, List.map_map, hlower]
  · have hcapitals : ∀ v ∈ (wordsOf name).map capitalise, IsWord v :=
      List.forall_mem_map.2 fun w hw => isWord_capitalise (hwords w hw)
    rw [words, toList_headline hwords, wordsChars_intercalate (fun v hv => (hcapitals v hv).ne_nil)
      fun v hv _ hc => isBlank_of_isWord (hcapitals v hv) hc, List.map_map]
    rfl

/-- A row of capitals before a word, and marks and a digit between words. -/
theorem headline_spaces_and_capitalises_request :
    IsAscii "xmlHTTPRequest_v2-log" ∧
    headline "xmlHTTPRequest_v2-log" = "Xml HTTP Request V2 Log" ∧
    headline "Xml HTTP Request V2 Log" = "Xml HTTP Request V2 Log" := by
  have hascii : IsAscii "xmlHTTPRequest_v2-log" := by decide
  have hheadline : headline "xmlHTTPRequest_v2-log" = "Xml HTTP Request V2 Log" := by decide
  have hagain := (headline_spaces_and_capitalises hascii).1
  rw [hheadline] at hagain
  exact ⟨hascii, hheadline, hagain⟩

end RouteDoc.Headline
