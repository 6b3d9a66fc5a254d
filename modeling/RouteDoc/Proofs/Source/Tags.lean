import Mathlib.Data.List.TakeWhile
import RouteDoc.Source.QueryParameters
/-!
# RouteDoc.Proofs.Source.Tags

**How tags of parameters are found in a text.** `scan` looks for them from left to right. Nothing
depends on the number of its steps (`tagsFrom_eq_scan`), text without a mark is passed over
(`scan_append_of_unmarked`), and behind a tag the search goes on (`scan_of_some`).

The parts of a tag are words behind white space and the rest of a line behind white space:
`optionalWord_append` and `optionalLine_append` say what is taken for them. White space is no part of
a word (`isWord_eq_false`), so a word ends where white space begins.
-/

namespace RouteDoc.Source

open RouteDoc.Text

/-! ### Scanning -/

/-- The tags in a text, from left to right. -/
def scan (cs : List Char) : List QueryTag := tagsFrom cs.length cs

theorem suffix_of_behindBlank? {cs rest : List Char} (h : behindBlank? cs = some rest) :
    rest <:+ cs := by
  unfold behindBlank? at h
  dsimp only at h
  split at h
  · simp at h
  · rw [← Option.some.inj h]
    exact List.dropWhile_suffix _

theorem suffix_optionalWord (cs : List Char) : (optionalWord cs).2 <:+ cs := by
  unfold optionalWord wordBehindBlank?
  dsimp only
  split
  · rename_i word rest heq
    split at heq
    · simp at heq
    · obtain ⟨-, rfl⟩ := Prod.mk.inj (Option.some.inj heq)
      exact (List.drop_suffix _ _).trans (List.dropWhile_suffix _)
  · exact List.suffix_refl _

theorem suffix_optionalLine (cs : List Char) : (optionalLine cs).2 <:+ cs := by
  unfold optionalLine
  split
  · rename_i rest heq
    exact (List.drop_suffix _ _).trans (suffix_of_behindBlank? heq)
  · exact List.suffix_refl _

/-- A tag takes something away. -/
theorem length_lt_of_tag? {cs rest : List Char} {a : QueryTag} (h : tag? cs = some (a, rest)) :
    rest.length < cs.length := by
  unfold tag? at h
  split at h
  · rename_i hmark
    have hlength : tagMark.length ≤ cs.length := (List.isPrefixOf_iff_prefix.1 hmark).length_le
    obtain ⟨more, hmore, h⟩ := Option.bind_eq_some_iff.1 h
    dsimp only at h
    split at h
    · simp at h
    · obtain ⟨-, rfl⟩ := Prod.mk.inj (Option.some.inj h)
      refine Nat.lt_of_le_of_lt (((suffix_optionalLine _).trans (suffix_optionalWord _)).trans
        ((List.drop_suffix _ _).trans (suffix_of_behindBlank? hmore))).length_le ?_
      have hpos : 0 < tagMark.length := by decide
      rw [List.length_drop]
      omega
  · simp at h

theorem tagsFrom_nil (n : Nat) : tagsFrom n [] = [] := by cases n <;> rfl

theorem tagsFrom_congr {n m : Nat} {cs : List Char} (hn : cs.length ≤ n) (hm : cs.length ≤ m) :
    tagsFrom n cs = tagsFrom m cs := by
  induction n generalizing m cs with
  | zero =>
      obtain rfl := List.eq_nil_of_length_eq_zero (Nat.le_zero.1 hn)
      rw [tagsFrom_nil, tagsFrom_nil]
  | succ n ih =>
      cases cs with
      | nil => rw [tagsFrom_nil, tagsFrom_nil]
      | cons c rest =>
          cases m with
          | zero => simp at hm
          | succ m =>
              rw [List.length_cons, Nat.succ_le_succ_iff] at hn hm
              rw [tagsFrom, tagsFrom]
              cases htag : tag? (c :: rest) with
              | none => exact ih hn hm
              | some found =>
                  have hlt := Nat.le_of_lt_succ (length_lt_of_tag? htag)
                  exact congrArg _ (ih (Nat.le_trans hlt hn) (Nat.le_trans hlt hm))

/-- More steps find no more. -/
theorem tagsFrom_eq_scan {n : Nat} {cs : List Char} (h : cs.length ≤ n) :
    tagsFrom n cs = scan cs := tagsFrom_congr h (Nat.le_refl _)

theorem scan_cons_of_none {c : Char} {rest : List Char} (h : tag? (c :: rest) = none) :
    scan (c :: rest) = scan rest := by
  rw [scan, List.length_cons, tagsFrom, h]
  rfl

theorem scan_of_some {cs rest : List Char} {a : QueryTag} (h : tag? cs = some (a, rest)) :
    scan cs = a :: scan rest := by
  have hlt := length_lt_of_tag? h
  cases cs with
  | nil => simp at hlt
  | cons c more =>
      rw [scan, List.length_cons, tagsFrom, h]
      exact congrArg _ (tagsFrom_eq_scan (Nat.le_of_lt_succ hlt))

/-! ### Text without tags -/

theorem tagMark_eq : tagMark = '@' :: "queryParam".toList := rfl

theorem tag?_of_ne {c : Char} (h : c ≠ '@') (rest : List Char) : tag? (c :: rest) = none := by
  rw [tag?, if_neg]
  simp [tagMark_eq, List.isPrefixOf, Ne.symm h]

theorem scan_append_of_not_mem {cs : List Char} (h : '@' ∉ cs) (rest : List Char) :
    scan (cs ++ rest) = scan rest := by
  induction cs with
  | nil => rfl
  | cons c more ih =>
      have hc : c ≠ '@' := fun heq => h (heq ▸ List.mem_cons_self)
      rw [List.cons_append, scan_cons_of_none (tag?_of_ne hc _)]
      exact ih fun hmem => h (List.mem_cons_of_mem c hmem)

/-- What may come behind a line: nothing, or the next line. -/
def Ends (rest : List Char) : Prop := rest = [] ∨ ∃ below, rest = '\n' :: below

/-- A mark does not go over the end of a line. -/
theorem tagMark_prefix_of_append {cs rest : List Char} (hrest : Ends rest)
    (h : tagMark <+: cs ++ rest) : tagMark <+: cs := by
  rcases Nat.le_total tagMark.length cs.length with hlong | hshort
  · exact List.prefix_of_prefix_length_le h (List.prefix_append _ _) hlong
  · obtain ⟨more, hmore⟩ := List.prefix_of_prefix_length_le (List.prefix_append cs rest) h hshort
    rw [← hmore, List.prefix_append_right_inj] at h
    cases more with
    | nil =>
        rw [List.append_nil] at hmore
        exact hmore ▸ List.prefix_refl _
    | cons c more =>
        exfalso
        rcases hrest with rfl | ⟨below, rfl⟩
        · simp at h
        · -- the line end would be part of the mark
          obtain ⟨rfl, -⟩ := List.cons_prefix_cons.1 h
          exact absurd (hmore ▸ List.mem_append_right _ List.mem_cons_self : '\n' ∈ tagMark)
            (by decide)

/-- Every mark in a text has a character directly behind it that is no white space. -/
def Unmarked (cs : List Char) : Prop :=
  ∀ before after, cs = before ++ (tagMark ++ after) →
    ∃ c rest, after = c :: rest ∧ isBlank c = false

theorem unmarked_of_not_mem {cs : List Char} (h : '@' ∉ cs) : Unmarked cs := by
  rintro before after rfl
  exact absurd (List.mem_append_right _ List.mem_cons_self) h

theorem skipBlank_cons {c : Char} (h : isBlank c = false) (rest : List Char) :
    skipBlank (c :: rest) = c :: rest := by
  rw [skipBlank, List.dropWhile_cons_of_neg (by rw [h]; simp)]

theorem behindBlank?_cons {c : Char} (h : isBlank c = false) (rest : List Char) :
    behindBlank? (c :: rest) = none := by
  rw [behindBlank?, skipBlank_cons h]
  exact if_pos rfl

theorem scan_append_of_unmarked {cs rest : List Char} (h : Unmarked cs) (hrest : Ends rest) :
    scan (cs ++ rest) = scan rest := by
  induction cs with
  | nil => rfl
  | cons c more ih =>
      rw [List.cons_append, scan_cons_of_none]
      · exact ih fun before after heq => h (c :: before) after (by rw [heq]; rfl)
      · rw [tag?]
        split
        · rename_i hmark
          rw [List.isPrefixOf_iff_prefix, ← List.cons_append] at hmark
          obtain ⟨after, hafter⟩ := tagMark_prefix_of_append hrest hmark
          obtain ⟨d, behind, rfl, hd⟩ := h [] after hafter.symm
          rw [← List.cons_append, ← hafter, List.append_assoc, List.drop_left, List.cons_append,
            behindBlank?_cons hd]
          rfl
        · rfl

/-! ### Parts behind white space -/

/-- No range of the one table touches a range of the other. -/
def apart (ranges others : Ranges) : Bool :=
  ranges.toList.all fun r => others.toList.all fun other => other.2 < r.1 || r.2 < other.1

theorem holds_eq_false_of_apart {ranges others : Ranges} (h : apart ranges others = true) {c : Char}
    (hc : others.holds c = true) : ranges.holds c = false := by
  simp only [apart, List.all_eq_true, Bool.or_eq_true, decide_eq_true_eq] at h
  simp only [Ranges.holds, Array.any_eq_true', Bool.and_eq_true, decide_eq_true_eq] at hc
  obtain ⟨other, hother, hlow, hhigh⟩ := hc
  rw [Bool.eq_false_iff]
  simp only [Ranges.holds, ne_eq, Array.any_eq_true', Bool.and_eq_true, decide_eq_true_eq]
  rintro ⟨r, hr, hfrom, hto⟩
  have hapart := h r (Array.mem_toList_iff.2 hr) other (Array.mem_toList_iff.2 hother)
  omega

theorem apart_wordRanges_blankRanges : apart wordRanges blankRanges = true := by decide +kernel

/-- White space is no part of a word. -/
theorem isWord_eq_false {c : Char} (h : isBlank c = true) : isWord c = false := by
  unfold isBlank at h
  unfold isWord
  split at h
  · rename_i hascii
    rw [if_pos hascii]
    simp only [Bool.or_eq_true, Bool.and_eq_true, decide_eq_true_eq] at h
    -- it comes before the digits
    have hcode : c.toNat < 48 := by omega
    rw [← Char.ofNat_toNat c]
    generalize c.toNat = n at hcode
    revert n
    decide
  · rename_i hascii
    rw [if_neg hascii]
    exact holds_eq_false_of_apart apart_wordRanges_blankRanges h

/-- A word ends where the text ends, or where white space begins. -/
def Breaks (rest : List Char) : Prop := rest = [] ∨ ∃ c more, rest = c :: more ∧ isBlank c = true

theorem breaks_append {gap rest : List Char} (hgap : ∀ c ∈ gap, isBlank c = true)
    (hrest : Breaks rest) : Breaks (gap ++ rest) := by
  cases gap with
  | nil => exact hrest
  | cons c more => exact .inr ⟨c, more ++ rest, rfl, hgap c List.mem_cons_self⟩

/-- Characters of a kind to which no white space belongs are taken as far as they go. -/
theorem takeWhile_append_of_breaks {p : Char → Bool} (hp : ∀ c, isBlank c = true → p c = false)
    {word rest : List Char} (hword : ∀ c ∈ word, p c = true) (hrest : Breaks rest) :
    (word ++ rest).takeWhile p = word := by
  rw [List.takeWhile_append_of_pos hword]
  rcases hrest with rfl | ⟨c, more, rfl, hc⟩
  · rw [List.takeWhile_nil, List.append_nil]
  · rw [List.takeWhile_cons_of_neg (by rw [hp c hc]; simp), List.append_nil]

section Parts

variable {gap : List Char} (hgap : ∀ c ∈ gap, isBlank c = true)

include hgap

theorem skipBlank_append (rest : List Char) : skipBlank (gap ++ rest) = skipBlank rest :=
  List.dropWhile_append_of_pos hgap

theorem skipBlank_eq_nil : skipBlank gap = [] := List.dropWhile_eq_nil_iff.2 hgap

theorem behindBlank?_append (hne : gap ≠ []) {c : Char} (hc : isBlank c = false)
    (rest : List Char) : behindBlank? (gap ++ c :: rest) = some (c :: rest) := by
  rw [behindBlank?, skipBlank_append hgap, skipBlank_cons hc]
  refine if_neg fun hlength => hne (List.eq_nil_of_length_eq_zero ?_)
  rw [List.length_append] at hlength
  omega

/-- A word behind white space is taken. -/
theorem optionalWord_append (hne : gap ≠ []) {word rest : List Char} (hword : word ≠ [])
    (hchars : ∀ c ∈ word, isWord c = true) (hrest : Breaks rest) :
    optionalWord (gap ++ (word ++ rest)) = (some (String.ofList word), rest) := by
  cases word with
  | nil => exact absurd rfl hword
  | cons c more =>
      -- a character of a word is no white space
      have hc : isBlank c = false := by
        rw [Bool.eq_false_iff]
        intro hblank
        have hnot := isWord_eq_false hblank
        rw [hchars c List.mem_cons_self] at hnot
        simp at hnot
      have htake := takeWhile_append_of_breaks (fun _ => isWord_eq_false) hchars hrest
      have hlength : (c :: more ++ rest).length ≠ (gap ++ (c :: more ++ rest)).length := by
        intro hlength
        refine hne (List.eq_nil_of_length_eq_zero ?_)
        simp only [List.length_append] at hlength
        omega
      rw [optionalWord, wordBehindBlank?, skipBlank_append hgap, List.cons_append, skipBlank_cons hc,
        ← List.cons_append, htake, List.drop_left, if_neg (by simpa using hlength)]

/-- Nothing is taken for a word where something else comes behind the white space. -/
theorem optionalWord_of_not_isWord {c : Char} (hc : isBlank c = false) (hword : isWord c = false)
    (rest : List Char) : optionalWord (gap ++ c :: rest) = (none, gap ++ c :: rest) := by
  rw [optionalWord, wordBehindBlank?, skipBlank_append hgap, skipBlank_cons hc,
    List.takeWhile_cons_of_neg (by rw [hword]; simp), if_pos (by simp)]

theorem optionalWord_gap : optionalWord gap = (none, gap) := by
  rw [optionalWord, wordBehindBlank?, skipBlank_eq_nil hgap, if_pos (by simp)]

/-- The rest of a line behind white space is taken. -/
theorem optionalLine_append (hne : gap ≠ []) {c : Char} {line rest : List Char}
    (hc : isBlank c = false) (hline : '\n' ∉ line) (hrest : Ends rest) :
    optionalLine (gap ++ (c :: line ++ rest)) = (some (String.ofList (c :: line)), rest) := by
  have hbreak : isBlank '\n' = true := by decide
  have hchars : ∀ d ∈ c :: line, decide (d ≠ '\n') = true := by
    intro d hd
    rw [decide_eq_true_eq]
    rintro rfl
    rcases List.mem_cons.1 hd with rfl | hd
    · rw [hbreak] at hc
      simp at hc
    · exact hline hd
  have htake : (c :: line ++ rest).takeWhile (· ≠ '\n') = c :: line := by
    rw [List.takeWhile_append_of_pos hchars]
    rcases hrest with rfl | ⟨below, rfl⟩
    · rw [List.takeWhile_nil, List.append_nil]
    · rw [List.takeWhile_cons_of_neg (by simp), List.append_nil]
  rw [optionalLine, List.cons_append, behindBlank?_append hgap hne hc]
  dsimp only
  rw [← List.cons_append, htake, List.drop_left]

/-- At the end of a text there may be white space to take. -/
theorem optionalLine_gap : ∃ line, optionalLine gap = (line, []) ∧ line.getD "" = "" := by
  unfold optionalLine behindBlank?
  rw [skipBlank_eq_nil hgap]
  cases gap with
  | nil => exact ⟨none, rfl, rfl⟩
  | cons c more => exact ⟨some "", rfl, rfl⟩

end Parts

end RouteDoc.Source
