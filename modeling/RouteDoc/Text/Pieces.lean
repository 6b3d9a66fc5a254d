import RouteDoc.Text.Blank
import RouteDoc.Text.Case
/-!
# RouteDoc.Text.Pieces

**Cutting texts and putting them together.** Each operation is a function on lists of characters,
about which the lemmas speak, and a form on `String` that the rest of the library calls.

* `trimChars` cuts characters off both ends; what is left neither starts nor ends with one.
* `cutChars` divides a text at the first place of a character; together the parts are the text.
* `replaceChars` replaces the occurrences of a pattern from left to right, without overlaps.
* `wordsChars` lists the words of a text, which white space separates.
-/

namespace RouteDoc.Text

/-! ### Lists of characters -/

/-- Cut characters of a kind off the front. -/
def trimFront (p : Char → Bool) (cs : List Char) : List Char := cs.dropWhile p

/-- Cut characters of a kind off the end. -/
def trimBack (p : Char → Bool) (cs : List Char) : List Char := (cs.reverse.dropWhile p).reverse

/-- Cut characters of a kind off both ends. -/
def trimChars (p : Char → Bool) (cs : List Char) : List Char := trimBack p (trimFront p cs)

/-- The parts before and after the first place of a character, when there is one. -/
def cutChars (c : Char) : List Char → Option (List Char × List Char)
  | [] => none
  | d :: rest =>
      if d = c then some ([], rest)
      else (cutChars c rest).map fun (before, after) => (d :: before, after)

/-- What stands behind the last place of a character; the whole text when there is none. -/
def afterLastChars (c : Char) (cs : List Char) : List Char :=
  (cs.reverse.takeWhile (· ≠ c)).reverse

/-- What stands before the last place of a character; the whole text when there is none. -/
def beforeLastChars (c : Char) (cs : List Char) : List Char :=
  if c ∈ cs then ((cs.reverse.dropWhile (· ≠ c)).drop 1).reverse else cs

/-- Replace the occurrences of `old`, passing over as many characters as are said first. -/
def replaceFrom (old new : List Char) : Nat → List Char → List Char
  | _, [] => []
  | skip + 1, _ :: rest => replaceFrom old new skip rest
  | 0, c :: rest =>
      if old.isPrefixOf (c :: rest) then new ++ replaceFrom old new (old.length - 1) rest
      else c :: replaceFrom old new 0 rest

/-- Replace the occurrences of `old` from left to right. An empty `old` occurs nowhere. -/
def replaceChars (old new cs : List Char) : List Char :=
  if old.isEmpty then cs else replaceFrom old new 0 cs

/-- Put a character into the place of another. -/
def swapChars (old new : Char) (cs : List Char) : List Char :=
  cs.map fun c => if c = old then new else c

/-- The words of a text. -/
def wordsChars (cs : List Char) : List (List Char) :=
  (cs.splitOnP isBlank).filter fun w => !w.isEmpty

/-! ### Texts -/

/-- Cut characters of a kind off both ends. -/
def trimBy (p : Char → Bool) (s : String) : String := String.ofList (trimChars p s.toList)

/-- Cut characters of a kind off the front. -/
def trimLeftBy (p : Char → Bool) (s : String) : String := String.ofList (trimFront p s.toList)

/-- Cut characters of a kind off the end. -/
def trimRightBy (p : Char → Bool) (s : String) : String := String.ofList (trimBack p s.toList)

/-- Cut white space off both ends. -/
def trim (s : String) : String := trimBy isBlank s

/-- Whether nothing is left of the text without white space. -/
def isBlankText (s : String) : Bool := s.toList.all isBlank

/-- The parts between the places of a character. -/
def split (c : Char) (s : String) : List String := (s.toList.splitOn c).map String.ofList

/-- The parts before and after the first place of a character. -/
def cut? (c : Char) (s : String) : Option (String × String) :=
  (cutChars c s.toList).map fun (before, after) => (String.ofList before, String.ofList after)

/-- What stands before the first place of a character; the whole text when there is none. -/
def before (c : Char) (s : String) : String := String.ofList (s.toList.takeWhile (· ≠ c))

/-- What stands behind the last place of a character; the whole text when there is none. -/
def afterLast (c : Char) (s : String) : String := String.ofList (afterLastChars c s.toList)

/-- Replace the occurrences of `old` from left to right. -/
def replace (old new : String) (s : String) : String :=
  String.ofList (replaceChars old.toList new.toList s.toList)

/-- Put a character into the place of another. -/
def swap (old new : Char) (s : String) : String := String.ofList (swapChars old new s.toList)

/-- Whether the text starts with another. -/
def startsWith (s start : String) : Bool := start.toList.isPrefixOf s.toList

/-- Whether the text ends with another. -/
def endsWith (s ending : String) : Bool := ending.toList.isSuffixOf s.toList

/-- Whether a list occurs in another without gaps. -/
def occursIn (part : List Char) : List Char → Bool
  | [] => part.isEmpty
  | c :: rest => part.isPrefixOf (c :: rest) || occursIn part rest

/-- Whether another text occurs in the text. -/
def contains (s part : String) : Bool := occursIn part.toList s.toList

/-- The text without its first characters. -/
def drop (n : Nat) (s : String) : String := String.ofList (s.toList.drop n)

/-- The text without its last characters. -/
def dropEnd (n : Nat) (s : String) : String := String.ofList (s.toList.take (s.toList.length - n))

/-- The words of a text. -/
def words (s : String) : List String := (wordsChars s.toList).map String.ofList

/-- The text with its first character in upper case. -/
def upperFirst (s : String) : String :=
  match s.toList with
  | [] => ""
  | c :: rest => String.ofList (upperChar c ++ rest)

/-- The text with its first character in lower case. -/
def lowerFirst (s : String) : String :=
  match s.toList with
  | [] => ""
  | c :: rest => String.ofList (lowerFrom [] [c] ++ rest)

/-- A text that is there and not empty. -/
def filled? : Option String → Option String
  | some s => if s = "" then none else some s
  | none => none

/-- A text that is there and not empty, else another one. -/
def filledOr (other : String) (s : Option String) : String := (filled? s).getD other

theorem filled?_eq_some_iff {s : Option String} {t : String} :
    filled? s = some t ↔ s = some t ∧ t ≠ "" := by
  cases s with
  | none => simp [filled?]
  | some u =>
      rw [filled?]
      split
      · rename_i hu
        subst hu
        constructor
        · simp
        · rintro ⟨h, hne⟩
          exact absurd (Option.some.inj h).symm hne
      · rename_i hu
        constructor
        · intro h
          exact ⟨h, Option.some.inj h ▸ hu⟩
        · exact fun h => h.1

/-! ### What is cut off and what is left -/

theorem cutChars_eq_none_iff {c : Char} {cs : List Char} : cutChars c cs = none ↔ c ∉ cs := by
  induction cs with
  | nil => simp [cutChars]
  | cons d rest ih =>
      by_cases h : d = c
      · simp [cutChars, h]
      · simp [cutChars, h, ih, Ne.symm h]

theorem cutChars_some {c : Char} {cs before after : List Char}
    (h : cutChars c cs = some (before, after)) : cs = before ++ c :: after ∧ c ∉ before := by
  induction cs generalizing before with
  | nil => simp [cutChars] at h
  | cons d rest ih =>
      by_cases hd : d = c
      · simp [cutChars, hd] at h
        obtain ⟨rfl, rfl⟩ := h
        simp [hd]
      · simp only [cutChars, if_neg hd, Option.map_eq_some_iff, Prod.exists, Prod.mk.injEq] at h
        obtain ⟨b, a, hba, rfl, rfl⟩ := h
        obtain ⟨rfl, hb⟩ := ih hba
        simp [hb, Ne.symm hd]

/-- A text is cut at the first place of a character. -/
theorem cutChars_append {c : Char} {before : List Char} (h : c ∉ before) (after : List Char) :
    cutChars c (before ++ c :: after) = some (before, after) := by
  induction before with
  | nil => simp [cutChars]
  | cons d rest ih =>
      rw [List.mem_cons, not_or] at h
      simp [cutChars, Ne.symm h.1, ih h.2]

theorem decide_ne_of_not_mem {c : Char} {cs : List Char} (h : c ∉ cs) :
    ∀ d ∈ cs, decide (d ≠ c) = true := by
  intro d hd
  have hdc : d ≠ c := fun heq => h (heq ▸ hd)
  simpa using hdc

/-- A character is at its last place when what follows does not hold it. -/
theorem lastChars_append {c : Char} (before : List Char) {after : List Char} (h : c ∉ after) :
    beforeLastChars c (before ++ c :: after) = before ∧
      afterLastChars c (before ++ c :: after) = after := by
  have hreverse : (before ++ c :: after).reverse = after.reverse ++ c :: before.reverse := by simp
  have hne := decide_ne_of_not_mem fun hc => h (List.mem_reverse.1 hc)
  constructor
  · rw [beforeLastChars, if_pos (by simp), hreverse, List.dropWhile_append_of_pos hne,
      List.dropWhile_cons_of_neg (by simp), List.drop_one, List.tail_cons, List.reverse_reverse]
  · rw [afterLastChars, hreverse, List.takeWhile_append_of_pos hne,
      List.takeWhile_cons_of_neg (by simp), List.append_nil, List.reverse_reverse]

theorem trimBack_of_getLast? {p : Char → Bool} {cs : List Char}
    (h : ∀ c, cs.getLast? = some c → p c = false) : trimBack p cs = cs := by
  rw [trimBack]
  cases hcs : cs.reverse with
  | nil => simpa using hcs
  | cons d rest =>
      have hd : p d = false := h d (by rw [← List.head?_reverse, hcs]; rfl)
      rw [List.dropWhile_cons_of_neg (by simp [hd]), ← hcs, List.reverse_reverse]

/-- Nothing is cut off where neither end is of the kind. -/
theorem trimChars_eq_self {p : Char → Bool} {cs : List Char}
    (hhead : ∀ c, cs.head? = some c → p c = false)
    (hlast : ∀ c, cs.getLast? = some c → p c = false) : trimChars p cs = cs := by
  have hfront : trimFront p cs = cs := by
    cases cs with
    | nil => rfl
    | cons c rest => exact List.dropWhile_cons_of_neg (by simp [hhead c rfl])
  rw [trimChars, hfront, trimBack_of_getLast? hlast]

/-- Nothing is cut off a text that neither starts nor ends with white space. -/
theorem trim_eq_self {s : String} (hhead : ∀ c, s.toList.head? = some c → isBlank c = false)
    (hlast : ∀ c, s.toList.getLast? = some c → isBlank c = false) : trim s = s := by
  rw [trim, trimBy, trimChars_eq_self hhead hlast, String.ofList_toList]

/-! ### What stands before a character -/

theorem not_mem_before (c : Char) (s : String) : c ∉ (before c s).toList := by
  rw [before, String.toList_ofList]
  intro h
  simpa using List.all_eq_true.1 List.all_takeWhile c h

theorem before_eq_self_iff {c : Char} {s : String} : before c s = s ↔ c ∉ s.toList := by
  constructor
  · intro h
    rw [← h]
    exact not_mem_before c s
  · intro h
    rw [before, ← List.append_nil s.toList,
      List.takeWhile_append_of_pos (decide_ne_of_not_mem h), List.takeWhile_nil, List.append_nil,
      String.ofList_toList]

theorem head?_splitOn (c : Char) (cs : List Char) :
    (cs.splitOn c).head? = some (cs.takeWhile (· ≠ c)) := by
  rw [List.splitOn_eq_splitOnP]
  induction cs with
  | nil => rfl
  | cons d rest ih =>
      rw [List.splitOnP_cons_eq_if_modifyHead, List.takeWhile_cons]
      by_cases h : d = c
      · simp [h]
      · simp [h, List.head?_modifyHead, ih]

/-- The first part of a text stands before the first place of the character. -/
theorem head?_split (c : Char) (s : String) : (split c s).head? = some (before c s) := by
  rw [split, List.head?_map, head?_splitOn]
  rfl

/-! ### Occurrences -/

theorem occursIn_iff {part cs : List Char} : occursIn part cs = true ↔ part <:+: cs := by
  induction cs with
  | nil => simp [occursIn, List.isEmpty_iff]
  | cons c rest ih =>
      rw [occursIn, Bool.or_eq_true, List.isPrefixOf_iff_prefix, ih, List.infix_cons_iff]

/-! ### Replacing -/

theorem replaceFrom_eq_drop (old new : List Char) (skip : Nat) (cs : List Char) :
    replaceFrom old new skip cs = replaceFrom old new 0 (cs.drop skip) := by
  induction skip generalizing cs with
  | zero => rfl
  | succ skip ih =>
      cases cs with
      | nil => rfl
      | cons c rest => exact ih rest

/-- An occurrence in front is replaced. -/
theorem replaceChars_append {old : List Char} (hold : old ≠ []) (new rest : List Char) :
    replaceChars old new (old ++ rest) = new ++ replaceChars old new rest := by
  cases old with
  | nil => exact absurd rfl hold
  | cons c tail =>
      have hoccurs : (c :: tail).isPrefixOf (c :: (tail ++ rest)) = true :=
        List.isPrefixOf_iff_prefix.2 (List.prefix_append (c :: tail) rest)
      have hskip : replaceFrom (c :: tail) new tail.length (tail ++ rest) =
          replaceFrom (c :: tail) new 0 rest := by
        rw [replaceFrom_eq_drop, List.drop_left]
      simp only [replaceChars, List.isEmpty_cons, Bool.false_eq_true, if_false, List.cons_append,
        replaceFrom, if_pos hoccurs, List.length_cons, Nat.add_sub_cancel, hskip]

/-- A character where no occurrence starts is passed over. -/
theorem replaceChars_cons {old : List Char} {c : Char} {rest : List Char}
    (h : ¬ old <+: c :: rest) (new : List Char) :
    replaceChars old new (c :: rest) = c :: replaceChars old new rest := by
  cases old with
  | nil => exact absurd List.nil_prefix h
  | cons d tail =>
      have hoccurs : ¬ (d :: tail).isPrefixOf (c :: rest) = true :=
        fun hfront => h (List.isPrefixOf_iff_prefix.1 hfront)
      simp only [replaceChars, List.isEmpty_cons, Bool.false_eq_true, if_false, replaceFrom,
        if_neg hoccurs]

theorem swapChars_eq_self {old : Char} {cs : List Char} (h : old ∉ cs) (new : Char) :
    swapChars old new cs = cs := by
  have hkept : ∀ c ∈ cs, (if c = old then new else c) = c :=
    fun c hc => if_neg fun (heq : c = old) => h (heq ▸ hc)
  exact (List.map_congr_left hkept).trans (List.map_id cs)

/-- Of a text in which a character was replaced by one that is left out, the rest stays. -/
theorem filter_swapChars {p : Char → Bool} {new : Char} (hnew : p new = false) (old : Char)
    (cs : List Char) : (swapChars old new cs).filter p = cs.filter fun c => p c && c ≠ old := by
  induction cs with
  | nil => rfl
  | cons c rest ih =>
      rw [swapChars, List.map_cons, ← swapChars, List.filter_cons, List.filter_cons, ih]
      by_cases hc : c = old
      · simp [hc, hnew]
      · simp [hc]

/-! ### Words -/

theorem flatten_splitOnP (p : Char → Bool) (cs : List Char) :
    (cs.splitOnP p).flatten = cs.filter fun c => !p c := by
  induction cs with
  | nil => rfl
  | cons c rest ih =>
      obtain ⟨w, ws, hws⟩ := List.exists_cons_of_ne_nil (List.splitOnP_ne_nil p rest)
      rw [hws, List.flatten_cons] at ih
      cases hp : p c with
      | true => simp [List.splitOnP_cons_eq_if_modifyHead, hp, hws, ih]
      | false => simp [List.splitOnP_cons_eq_if_modifyHead, hp, hws, ih]

/-- The first part of a text is in front, and any other part is somewhere inside. -/
theorem splitOnP_parts {p : Char → Bool} {cs w : List Char} {ws : List (List Char)}
    (h : cs.splitOnP p = w :: ws) : w <+: cs ∧ ∀ v ∈ ws, v <:+: cs := by
  induction cs generalizing w ws with
  | nil =>
      obtain ⟨rfl, rfl⟩ : [] = w ∧ [] = ws := by simpa using h
      simp
  | cons c rest ih =>
      obtain ⟨v, vs, hvs⟩ := List.exists_cons_of_ne_nil (List.splitOnP_ne_nil p rest)
      obtain ⟨hfirst, hothers⟩ := ih hvs
      rw [List.splitOnP_cons_eq_if_modifyHead, hvs] at h
      split at h
      · obtain ⟨rfl, rfl⟩ : [] = w ∧ v :: vs = ws := by simpa using h
        refine ⟨List.nil_prefix, fun u hu => ?_⟩
        rcases List.mem_cons.1 hu with rfl | hu
        · exact List.infix_cons hfirst.isInfix
        · exact List.infix_cons (hothers u hu)
      · obtain ⟨rfl, rfl⟩ : c :: v = w ∧ vs = ws := by simpa using h
        exact ⟨(List.prefix_cons_inj c).2 hfirst, fun u hu => List.infix_cons (hothers u hu)⟩

theorem infix_of_mem_wordsChars {cs w : List Char} (h : w ∈ wordsChars cs) : w <:+: cs := by
  obtain ⟨v, vs, hvs⟩ := List.exists_cons_of_ne_nil (List.splitOnP_ne_nil isBlank cs)
  obtain ⟨hfirst, hothers⟩ := splitOnP_parts hvs
  have hmem : w ∈ v :: vs := hvs ▸ (List.mem_filter.1 h).1
  rcases List.mem_cons.1 hmem with rfl | hw
  · exact hfirst.isInfix
  · exact hothers w hw

/-- The words of a text hold all of it but the white space. -/
theorem flatten_wordsChars (cs : List Char) :
    (wordsChars cs).flatten = cs.filter fun c => !isBlank c := by
  rw [wordsChars, List.flatten_filter_not_isEmpty, flatten_splitOnP]

/-- Words with a blank between each two are read back. -/
theorem wordsChars_intercalate {ws : List (List Char)} (hne : ∀ w ∈ ws, w ≠ [])
    (hblank : ∀ w ∈ ws, ∀ c ∈ w, isBlank c = false) : wordsChars ([' '].intercalate ws) = ws := by
  induction ws with
  | nil => rfl
  | cons w ws ih =>
      have hfirst : w.splitOnP isBlank = [w] :=
        List.splitOnP_eq_singleton (hblank w List.mem_cons_self)
      have hkept : [w].filter (fun w => !w.isEmpty) = [w] := by
        simpa using hne w List.mem_cons_self
      have hrest := ih (fun v hv => hne v (List.mem_cons_of_mem _ hv))
        fun v hv => hblank v (List.mem_cons_of_mem _ hv)
      cases ws with
      | nil => rw [List.intercalate_singleton, wordsChars, hfirst, hkept]
      | cons v vs =>
          rw [List.intercalate_cons_cons, List.append_assoc, List.singleton_append, wordsChars,
            List.splitOnP_append_cons _ _ (by decide), hfirst, List.filter_append, hkept]
          exact congrArg (w :: ·) hrest

end RouteDoc.Text
