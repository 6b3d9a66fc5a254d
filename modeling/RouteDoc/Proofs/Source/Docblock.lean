import Mathlib.Data.List.DropRight
import RouteDoc.Proofs.Source.Tags
/-!
# RouteDoc.Proofs.Source.Docblock

**Which tags of a comment are read as they stand.** A comment is written line by line (`text`): on a
line there is a tag of a parameter behind a star, with a type and a description or without them, or
there is text without any. White space between the parts of a tag may hold line ends. So where a
description is missing, the next line is read for it, and what stands on that line is not found
(`found_of_gap`); that shows, unless there is nothing on the line but stars and slashes
(`plainDescription_star_iff`).

* `WrittenTag.tag?_core_line` and `WrittenTag.tag?_core_end` say what is read at a tag, by what comes
  behind it.
* `found_of_remark`, `found_last` and `found_of_gap` are the steps from line to line.
* `queryParameters_docblock`: where no tag without a description has text on the line below, each tag
  makes one parameter, from its own line, and elsewhere it does not.
-/

namespace RouteDoc.Source

open RouteDoc.Text

namespace Docblock

/-! ### Comments line by line -/

/-- White space within a line, if any. -/
structure Gap where
  /-- Its characters. -/
  chars : List Char
  blank : ∀ c ∈ chars, isBlank c = true
  inline : '\n' ∉ chars

/-- White space within a line. -/
structure Space extends Gap where
  ne_nil : chars ≠ []

/-- The name of a parameter. -/
structure Name where
  /-- Its characters. -/
  chars : List Char
  ne_nil : chars ≠ []
  ink : ∀ c ∈ chars, isBlank c = false

/-- The word for a type. -/
structure TypeWord where
  /-- Its characters. -/
  chars : List Char
  ne_nil : chars ≠ []
  word : ∀ c ∈ chars, isWord c = true

/-- A description: the rest of a line, from the first character that is no white space. -/
structure Remark where
  /-- Its first character. -/
  first : Char
  /-- The characters behind the first one. -/
  rest : List Char
  ink : isBlank first = false
  inline : '\n' ∉ rest

/-- How a tag ends. -/
inductive Ending where
  /-- Nothing follows but white space. -/
  | gap (after : Gap)
  /-- A description follows. -/
  | remark (before : Space) (text : Remark)

namespace Ending

/-- The characters. -/
def chars : Ending → List Char
  | gap after => after.chars
  | remark before text => before.chars ++ text.first :: text.rest

/-- The description. -/
def description? : Ending → Option String
  | gap _ => none
  | remark _ text => some (String.ofList (text.first :: text.rest))

end Ending

/-- A tag of a parameter. -/
structure WrittenTag where
  /-- What separates the name from the mark. -/
  before : Space
  name : Name
  /-- The type, with what separates it from the name. -/
  type : Option (Space × TypeWord)
  ending : Ending
  /-- A description that follows the name does not begin like a type. -/
  untyped : type = none → ∀ before text, ending = .remark before text → isWord text.first = false

namespace WrittenTag

/-- The characters of the type and before it. -/
def typeChars (a : WrittenTag) : List Char :=
  match a.type with
  | some (before, type) => before.chars ++ type.chars
  | none => []

/-- The characters up to the ending. -/
def core (a : WrittenTag) : List Char :=
  tagMark ++ (a.before.chars ++ (a.name.chars ++ a.typeChars))

/-- The characters. -/
def chars (a : WrittenTag) : List Char := a.core ++ a.ending.chars

/-- What the tag says. -/
def query (a : WrittenTag) : QueryTag where
  name := String.ofList a.name.chars
  type := a.type.map fun type => String.ofList type.2.chars
  description := a.ending.description?

end WrittenTag

/-- Text of a line without a tag. -/
structure Prose where
  /-- Its characters. -/
  chars : List Char
  inline : '\n' ∉ chars
  unmarked : Unmarked chars

/-- A line of a comment. -/
inductive Line where
  /-- A tag behind a star. -/
  | tagged (margin gap : Gap) (a : WrittenTag)
  /-- Anything else. -/
  | prose (text : Prose)

namespace Line

/-- The characters. -/
def chars : Line → List Char
  | tagged margin gap a => margin.chars ++ '*' :: (gap.chars ++ a.chars)
  | prose text => text.chars

/-- The tag. -/
def written? : Line → Option WrittenTag
  | tagged _ _ a => some a
  | prose _ => none

/-- The tag has no description. -/
def IsOpen (line : Line) : Prop :=
  ∃ a, line.written? = some a ∧ a.ending.description? = none

/-- The line begins with a star. -/
def IsStarred (line : Line) : Prop :=
  ∃ (margin : Gap) (body : List Char), line.chars = margin.chars ++ '*' :: body

/-- There is nothing on the line but stars and slashes, with a star in front. -/
def IsBare (line : Line) : Prop :=
  ∃ (margin after : Gap) (marks : List Char),
    line.chars = margin.chars ++ '*' :: (marks ++ after.chars) ∧ ∀ c ∈ marks, c = '*' ∨ c = '/'

end Line

/-- The text of a comment. -/
def text (lines : List Line) : String :=
  String.ofList (List.intercalate ['\n'] (lines.map Line.chars))

/-- The parameters that the tags of a comment say, each by itself. -/
def parameters (lines : List Line) : List Fragment :=
  (lines.filterMap Line.written?).map fun a => a.query.parameter

/-- The line below a tag without a description is bare. -/
def Separated (lines : List Line) : Prop :=
  lines.IsChain fun line next => line.IsOpen → next.IsBare

/-! ### One tag -/

namespace WrittenTag

theorem description_of_gap (a : WrittenTag) {after : Gap} (h : a.ending = .gap after) :
    a.query.description = none := congrArg Ending.description? h

theorem description_of_remark (a : WrittenTag) {before : Space} {remark : Remark}
    (h : a.ending = .remark before remark) :
    a.query.description = some (String.ofList (remark.first :: remark.rest)) :=
  congrArg Ending.description? h

/-- At a tag, the name is read, and the rest by what stands there. -/
theorem tag?_core (a : WrittenTag) {rest : List Char} (hrest : Breaks (a.typeChars ++ rest)) :
    tag? (a.core ++ rest) =
      let word := optionalWord (a.typeChars ++ rest)
      let line := optionalLine word.2
      some (⟨String.ofList a.name.chars, word.1, line.1⟩, line.2) := by
  obtain ⟨c, more, hname⟩ := List.exists_cons_of_ne_nil a.name.ne_nil
  have hc : isBlank c = false := a.name.ink c (hname ▸ List.mem_cons_self)
  have htake : (a.name.chars ++ (a.typeChars ++ rest)).takeWhile (fun d => !isBlank d) =
      a.name.chars :=
    takeWhile_append_of_breaks (fun d hd => by rw [hd]; rfl)
      (fun d hd => by rw [a.name.ink d hd]; rfl) hrest
  have hmark : tagMark.isPrefixOf (a.core ++ rest) = true := by
    rw [List.isPrefixOf_iff_prefix, core, List.append_assoc]
    exact List.prefix_append _ _
  have hbehind : behindBlank? ((a.core ++ rest).drop tagMark.length) =
      some (a.name.chars ++ (a.typeChars ++ rest)) := by
    rw [core, List.append_assoc, List.drop_left, List.append_assoc, List.append_assoc, hname,
      List.cons_append, behindBlank?_append a.before.blank a.before.ne_nil hc]
  have hempty : a.name.chars.isEmpty = false := by rw [hname]; rfl
  rw [tag?, if_pos hmark, hbehind]
  dsimp only [Option.bind_eq_bind, Option.bind_some]
  rw [htake, List.drop_left, hempty]
  rfl

/-- The type is read, where there is one, and nothing else is taken for it. -/
theorem optionalWord_typeChars (a : WrittenTag) {rest : List Char} (hrest : Breaks rest)
    (hnone : a.type = none → optionalWord rest = (none, rest)) :
    optionalWord (a.typeChars ++ rest) = (a.query.type, rest) := by
  unfold typeChars query
  cases htype : a.type with
  | none => exact hnone htype
  | some found =>
      obtain ⟨before, type⟩ := found
      dsimp only
      rw [List.append_assoc]
      exact optionalWord_append before.blank before.ne_nil type.ne_nil type.word hrest

theorem breaks_typeChars (a : WrittenTag) {rest : List Char} (hrest : Breaks rest) :
    Breaks (a.typeChars ++ rest) := by
  unfold typeChars
  cases a.type with
  | none => exact hrest
  | some found =>
      obtain ⟨c, more, hbefore⟩ := List.exists_cons_of_ne_nil found.1.ne_nil
      refine .inr ⟨c, more ++ found.2.chars ++ rest, ?_, ?_⟩
      · simp [hbefore]
      · exact found.1.blank c (hbefore ▸ List.mem_cons_self)

/-- White space and the rest of a line behind a tag are read as its description, whether or
not they are on the line of the tag. -/
theorem tag?_core_line (a : WrittenTag) {gap : List Char} (hgap : ∀ c ∈ gap, isBlank c = true)
    (hne : gap ≠ []) {c : Char} {line rest : List Char} (hc : isBlank c = false)
    (hword : a.type = none → isWord c = false) (hline : '\n' ∉ line) (hrest : Ends rest) :
    tag? (a.core ++ (gap ++ (c :: line ++ rest))) =
      some ({ a.query with description := some (String.ofList (c :: line)) }, rest) := by
  have hbreaks : Breaks (gap ++ (c :: line ++ rest)) := by
    obtain ⟨d, more, rfl⟩ := List.exists_cons_of_ne_nil hne
    exact .inr ⟨d, _, rfl, hgap d List.mem_cons_self⟩
  rw [tag?_core a (breaks_typeChars a hbreaks), optionalWord_typeChars a hbreaks]
  · dsimp only
    rw [optionalLine_append hgap hne hc hline hrest]
    rfl
  · exact fun htype => optionalWord_of_not_isWord hgap hc (hword htype) (line ++ rest)

/-- Behind the last tag there may be white space. -/
theorem tag?_core_end (a : WrittenTag) {gap : List Char} (hgap : ∀ c ∈ gap, isBlank c = true) :
    ∃ line, tag? (a.core ++ gap) = some ({ a.query with description := line }, []) ∧
      line.getD "" = "" := by
  obtain ⟨line, hline, hempty⟩ := optionalLine_gap hgap
  have hbreaks : Breaks gap := by
    rw [← List.append_nil gap]
    exact breaks_append hgap (.inl rfl)
  refine ⟨line, ?_, hempty⟩
  rw [tag?_core a (breaks_typeChars a hbreaks),
    optionalWord_typeChars a hbreaks fun _ => optionalWord_gap hgap]
  dsimp only
  rw [hline]
  rfl

end WrittenTag

/-! ### Descriptions -/

/-- A star or a slash, as at the end of a comment. -/
def isMark (c : Char) : Bool := c = '*' || c = '/'

theorem trimBack_eq_nil_iff {p : Char → Bool} {cs : List Char} :
    trimBack p cs = [] ↔ ∀ c ∈ cs, p c = true := List.rdropWhile_eq_nil_iff

/-- What begins with a star keeps it when white space is cut off. -/
theorem trimChars_star (body : List Char) :
    trimChars isBlank ('*' :: body) = trimBack isBlank ('*' :: body) := by
  have hstar : isBlank '*' = false := by decide
  rw [trimChars, trimFront, List.dropWhile_cons_of_neg (by rw [hstar]; simp)]

/-- Nothing is left of a front part of a line with a star, without white space, only if it is
empty. -/
theorem trimChars_eq_nil_iff {cs body : List Char} (h : cs <+: '*' :: body) :
    trimChars isBlank cs = [] ↔ cs = [] := by
  constructor
  · intro hnil
    cases cs with
    | nil => rfl
    | cons c more =>
        obtain ⟨rfl, -⟩ := List.cons_prefix_cons.1 h
        rw [trimChars_star, trimBack_eq_nil_iff] at hnil
        exact absurd (hnil '*' List.mem_cons_self) (by decide)
  · rintro rfl
    rfl

/-- A line that begins with a star shows as a description, unless there is nothing on it but stars
and slashes. -/
theorem plainDescription_star_iff {body : List Char} :
    plainDescription (String.ofList ('*' :: body)) = "" ↔
      ∃ marks after, body = marks ++ after ∧ (∀ c ∈ marks, c = '*' ∨ c = '/') ∧
        ∀ c ∈ after, isBlank c = true := by
  have hmark : ∀ c, isMark c = true ↔ c = '*' ∨ c = '/' := fun c => by simp [isMark]
  -- what is left without white space at the end consists of marks
  have hplain : plainDescription (String.ofList ('*' :: body)) = "" ↔
      ∀ c ∈ trimBack isBlank ('*' :: body), isMark c = true := by
    have hprefix : trimBack isMark (trimBack isBlank ('*' :: body)) <+: '*' :: body :=
      (List.rdropWhile_prefix _ _).trans (List.rdropWhile_prefix _ _)
    rw [← trimBack_eq_nil_iff, ← trimChars_eq_nil_iff hprefix, plainDescription, trim, trimBy,
      trimRightBy, trim, trimBy, String.toList_ofList, String.toList_ofList, String.toList_ofList,
      trimChars_star, String.ofList_eq_empty_iff]
    rfl
  rw [hplain]
  constructor
  · intro hall
    have hsplit : trimBack isBlank ('*' :: body) ++ List.rtakeWhile isBlank ('*' :: body) =
        '*' :: body := List.rdropWhile_append_rtakeWhile
    cases htrim : trimBack isBlank ('*' :: body) with
    | nil =>
        exact absurd (trimBack_eq_nil_iff.1 htrim '*' List.mem_cons_self) (by decide)
    | cons c marks =>
        rw [htrim] at hall hsplit
        obtain ⟨-, hbody⟩ := List.cons.inj hsplit
        exact ⟨marks, _, hbody.symm,
          fun d hd => (hmark d).1 (hall d (List.mem_cons_of_mem _ hd)),
          fun d hd => List.mem_rtakeWhile_imp hd⟩
  · rintro ⟨marks, after, rfl, hmarks, hafter⟩ c hc
    have hc : c ∈ '*' :: marks := by
      -- the white space at the end is cut off
      have htrim : trimBack isBlank ('*' :: (marks ++ after)) = trimBack isBlank ('*' :: marks) := by
        rw [trimBack, ← List.cons_append, List.reverse_append,
          List.dropWhile_append_of_pos fun d hd => hafter d (List.mem_reverse.1 hd)]
        rfl
      rw [htrim] at hc
      exact (List.rdropWhile_prefix _ _).subset hc
    rw [hmark]
    rcases List.mem_cons.1 hc with rfl | hc
    · exact .inl rfl
    · exact hmarks c hc

/-- The parameter of a tag without a description. -/
theorem parameter_of_empty (a : QueryTag) {d : Option String} (hd : d.getD "" = "")
    (ha : a.description = none) : { a with description := d }.parameter = a.parameter := by
  unfold QueryTag.parameter QueryTag.schemaType
  rw [hd, ha]
  rfl

/-- A description of a tag that has none itself shows, unless nothing is left of it. -/
theorem parameter_eq_iff (a : QueryTag) {d : String} (ha : a.description = none) :
    { a with description := some d }.parameter = a.parameter ↔ plainDescription d = "" := by
  have hnone : plainDescription "" = "" := by decide
  unfold QueryTag.parameter QueryTag.schemaType
  rw [ha, Option.getD_some, Option.getD_none, hnone, if_pos rfl]
  dsimp only
  split
  · rename_i hd
    simp [hd]
  · rename_i hd
    simp [hd]

/-! ### Lines -/

theorem isBlank_newline : isBlank '\n' = true := by decide

theorem Name.inline (name : Name) : '\n' ∉ name.chars := fun hmem => by
  have hink := name.ink _ hmem
  rw [isBlank_newline] at hink
  simp at hink

theorem TypeWord.inline (type : TypeWord) : '\n' ∉ type.chars := fun hmem => by
  have hword := type.word _ hmem
  rw [isWord_eq_false isBlank_newline] at hword
  simp at hword

theorem Remark.first_ne (remark : Remark) : '\n' ≠ remark.first := fun heq => by
  have hink := remark.ink
  rw [← heq, isBlank_newline] at hink
  simp at hink

theorem WrittenTag.inline (a : WrittenTag) : '\n' ∉ a.chars := by
  have hmark : '\n' ∉ tagMark := by decide
  have htype : '\n' ∉ a.typeChars := by
    unfold WrittenTag.typeChars
    split
    · rename_i before type _
      simp [before.inline, type.inline]
    · simp
  have hending : '\n' ∉ a.ending.chars := by
    cases a.ending with
    | gap after => exact after.inline
    | remark before remark => simp [Ending.chars, before.inline, remark.inline, remark.first_ne]
  simp [chars, core, hmark, a.before.inline, a.name.inline, htype, hending]

/-- A line has no line end. -/
theorem Line.inline (line : Line) : '\n' ∉ line.chars := by
  cases line with
  | prose text => exact text.inline
  | tagged margin gap a => simp [Line.chars, margin.inline, gap.inline, a.inline]

/-- The lines below a line. -/
def below (lines : List Line) : List Char := lines.flatMap fun line => '\n' :: line.chars

theorem below_cons (line : Line) (lines : List Line) :
    below (line :: lines) = '\n' :: (line.chars ++ below lines) := rfl

theorem ends_below (lines : List Line) : Ends (below lines) := by
  cases lines with
  | nil => exact .inl rfl
  | cons line rest => exact .inr ⟨_, below_cons line rest⟩

theorem intercalate_eq (line : Line) (lines : List Line) :
    List.intercalate ['\n'] ((line :: lines).map Line.chars) = line.chars ++ below lines := by
  induction lines generalizing line with
  | nil => simp [below]
  | cons next rest ih =>
      have hrest := ih next
      rw [List.map_cons] at hrest
      rw [List.map_cons, List.map_cons, List.intercalate_cons_cons, hrest, below_cons,
        List.append_assoc]
      rfl

/-- The parameters that are found in a text. -/
def found (cs : List Char) : List Fragment := (scan cs).map QueryTag.parameter

theorem queryParameters_text_cons (line : Line) (lines : List Line) :
    queryParameters (text (line :: lines)) = found (line.chars ++ below lines) := by
  rw [queryParameters, queryTags, text, String.toList_ofList, intercalate_eq]
  rfl

theorem found_append_of_not_mem {cs : List Char} (h : '@' ∉ cs) (rest : List Char) :
    found (cs ++ rest) = found rest := by rw [found, scan_append_of_not_mem h, found]

/-- A line end is passed over. -/
theorem found_below_cons (line : Line) (lines : List Line) :
    found (below (line :: lines)) = found (line.chars ++ below lines) :=
  found_append_of_not_mem (show '@' ∉ ['\n'] by decide) _

theorem mark_not_mem (gap : Gap) : '@' ∉ gap.chars := fun hmem => by
  have hblank := gap.blank _ hmem
  revert hblank
  decide

theorem found_prose (text : Prose) (lines : List Line) :
    found ((Line.prose text).chars ++ below lines) = found (below lines) := by
  rw [found, Line.chars, scan_append_of_unmarked text.unmarked (ends_below lines), found]

/-- What is in front of a tag on its line is passed over. -/
theorem found_tagged (margin gap : Gap) (a : WrittenTag) (rest : List Char) :
    found ((Line.tagged margin gap a).chars ++ rest) =
      found (a.core ++ (a.ending.chars ++ rest)) := by
  have hfront : (Line.tagged margin gap a).chars ++ rest =
      (margin.chars ++ '*' :: gap.chars) ++ (a.core ++ (a.ending.chars ++ rest)) := by
    simp [Line.chars, WrittenTag.chars]
  rw [hfront, found_append_of_not_mem]
  simp [mark_not_mem]

theorem found_of_tag? {cs rest : List Char} {a : QueryTag} (h : tag? cs = some (a, rest)) :
    found cs = a.parameter :: found rest := by rw [found, scan_of_some h, List.map_cons, found]

/-- A tag with a description is read as it stands. -/
theorem found_of_remark (margin gap : Gap) {a : WrittenTag} {before : Space} {remark : Remark}
    (h : a.ending = .remark before remark) (lines : List Line) :
    found ((Line.tagged margin gap a).chars ++ below lines) =
      a.query.parameter :: found (below lines) := by
  have hread := a.tag?_core_line before.blank before.ne_nil remark.ink
    (fun htype => a.untyped htype before remark h) remark.inline (ends_below lines)
  rw [← a.description_of_remark h] at hread
  rw [found_tagged, h, Ending.chars, List.append_assoc]
  exact found_of_tag? hread

/-- A tag without a description is read as it stands on the last line. -/
theorem found_last (margin gap : Gap) {a : WrittenTag} {after : Gap} (h : a.ending = .gap after) :
    found ((Line.tagged margin gap a).chars ++ below []) = [a.query.parameter] := by
  obtain ⟨line, hread, hempty⟩ := a.tag?_core_end after.blank
  have hdescription := a.description_of_gap h
  rw [found_tagged, h, Ending.chars, below, List.flatMap_nil, List.append_nil,
    found_of_tag? hread, parameter_of_empty a.query hempty hdescription]
  rfl

/-- **A tag without a description takes the next line for its description**, from the star on, and
nothing else is found on that line. -/
theorem found_of_gap (margin gap : Gap) {a : WrittenTag} {after : Gap} (h : a.ending = .gap after)
    {next : Line} {indent : Gap} {body : List Char}
    (hnext : next.chars = indent.chars ++ '*' :: body) (lines : List Line) :
    found ((Line.tagged margin gap a).chars ++ below (next :: lines)) =
      { a.query with description := some (String.ofList ('*' :: body)) }.parameter ::
        found (below lines) := by
  have hbody : '\n' ∉ body := fun hmem => next.inline (by simp [hnext, hmem])
  have hblank : ∀ c ∈ after.chars ++ '\n' :: indent.chars, isBlank c = true := by
    intro c hc
    rcases List.mem_append.1 hc with hc | hc
    · exact after.blank c hc
    · rcases List.mem_cons.1 hc with rfl | hc
      · decide
      · exact indent.blank c hc
  have hread := a.tag?_core_line hblank (by simp) (c := '*') (by decide) (fun _ => by decide)
    hbody (ends_below lines)
  have htext : a.ending.chars ++ below (next :: lines) =
      (after.chars ++ '\n' :: indent.chars) ++ ('*' :: body ++ below lines) := by
    simp [h, Ending.chars, below_cons, hnext]
  rw [found_tagged, htext]
  exact found_of_tag? hread

/-! ### Whole comments -/

theorem mark_not_mem_bare {margin after : Gap} {marks : List Char}
    (hmarks : ∀ c ∈ marks, c = '*' ∨ c = '/') :
    '@' ∉ margin.chars ++ '*' :: (marks ++ after.chars) := by
  have hnot : '@' ∉ marks := fun hmem => by
    rcases hmarks _ hmem with heq | heq
    · exact absurd heq (by decide)
    · exact absurd heq (by decide)
  simp [mark_not_mem, hnot]

theorem isOpen_tagged {margin gap : Gap} {a : WrittenTag} :
    (Line.tagged margin gap a).IsOpen ↔ a.ending.description? = none := by
  simp [Line.IsOpen, Line.written?]

theorem not_isOpen_prose {text : Prose} : ¬ (Line.prose text).IsOpen := by
  simp [Line.IsOpen, Line.written?]

/-- Nothing is found on a bare line. -/
theorem found_bare {line : Line} (h : line.IsBare) (rest : List Char) :
    found (line.chars ++ rest) = found rest := by
  obtain ⟨margin, after, marks, hchars, hmarks⟩ := h
  rw [hchars, found_append_of_not_mem (mark_not_mem_bare hmarks)]

/-- Below a tag without a description, a bare line does no harm. -/
theorem found_of_bare (margin gap : Gap) {a : WrittenTag} {after : Gap} (h : a.ending = .gap after)
    {next : Line} (hnext : next.IsBare) (lines : List Line) :
    found ((Line.tagged margin gap a).chars ++ below (next :: lines)) =
      a.query.parameter :: found (next.chars ++ below lines) := by
  obtain ⟨indent, behind, marks, hchars, hmarks⟩ := hnext
  have hdescription := a.description_of_gap h
  have hempty : plainDescription (String.ofList ('*' :: (marks ++ behind.chars))) = "" :=
    plainDescription_star_iff.2 ⟨marks, behind.chars, rfl, hmarks, behind.blank⟩
  rw [found_of_gap margin gap h hchars, (parameter_eq_iff a.query hdescription).2 hempty,
    found_bare ⟨indent, behind, marks, hchars, hmarks⟩]

/-- Below a tag without a description, a line with a star does harm unless it is bare. -/
theorem isBare_of_found (margin gap : Gap) {a : WrittenTag} {after : Gap}
    (h : a.ending = .gap after) {next : Line} (hnext : next.IsStarred) {lines : List Line}
    {others : List Fragment}
    (hfound : found ((Line.tagged margin gap a).chars ++ below (next :: lines)) =
      a.query.parameter :: others) : next.IsBare := by
  obtain ⟨indent, body, hchars⟩ := hnext
  have hdescription := a.description_of_gap h
  rw [found_of_gap margin gap h hchars] at hfound
  obtain ⟨marks, behind, rfl, hmarks, hblank⟩ := plainDescription_star_iff.1
    ((parameter_eq_iff a.query hdescription).1 (List.cons.inj hfound).1)
  have hinline : '\n' ∉ behind := fun hmem => next.inline (by simp [hchars, hmem])
  exact ⟨indent, ⟨behind, hblank, hinline⟩, marks, hchars, hmarks⟩

theorem parameters_prose (text : Prose) (lines : List Line) :
    parameters (.prose text :: lines) = parameters lines := rfl

theorem parameters_tagged (margin gap : Gap) (a : WrittenTag) (lines : List Line) :
    parameters (.tagged margin gap a :: lines) = a.query.parameter :: parameters lines := rfl

/-- Tags that nothing disturbs are all found, by induction on the lines below the first. -/
theorem found_of_separated {line : Line} {lines : List Line} (h : Separated (line :: lines)) :
    found (line.chars ++ below lines) = parameters (line :: lines) := by
  induction lines generalizing line with
  | nil =>
      cases line with
      | prose text =>
          rw [found_prose]
          rfl
      | tagged margin gap a =>
          cases hending : a.ending with
          | gap after => exact found_last margin gap hending
          | remark before remark =>
              rw [found_of_remark margin gap hending]
              rfl
  | cons next rest ih =>
      obtain ⟨hnext, hrest⟩ := List.isChain_cons_cons.1 h
      cases line with
      | prose text => rw [found_prose, found_below_cons, ih hrest, parameters_prose]
      | tagged margin gap a =>
          rw [parameters_tagged, ← ih hrest]
          cases hending : a.ending with
          | gap after =>
              refine found_of_bare margin gap hending (hnext (isOpen_tagged.2 ?_)) rest
              rw [hending]
              rfl
          | remark before remark =>
              rw [found_of_remark margin gap hending, found_below_cons]

/-- Where all lines have stars, tags that are all found are not disturbed. -/
theorem separated_of_found {line : Line} {lines : List Line}
    (hstarred : ∀ next ∈ lines, next.IsStarred)
    (h : found (line.chars ++ below lines) = parameters (line :: lines)) :
    Separated (line :: lines) := by
  induction lines generalizing line with
  | nil => exact .singleton line
  | cons next rest ih =>
      have hrest := fun other hother => hstarred other (List.mem_cons_of_mem next hother)
      cases line with
      | prose text =>
          rw [found_prose, found_below_cons, parameters_prose] at h
          exact List.isChain_cons_cons.2 ⟨fun hopen => absurd hopen not_isOpen_prose, ih hrest h⟩
      | tagged margin gap a =>
          rw [parameters_tagged] at h
          cases hending : a.ending with
          | gap after =>
              have hbare := isBare_of_found margin gap hending
                (hstarred next List.mem_cons_self) h
              rw [found_of_bare margin gap hending hbare] at h
              exact List.isChain_cons_cons.2 ⟨fun _ => hbare, ih hrest (List.cons.inj h).2⟩
          | remark before remark =>
              rw [found_of_remark margin gap hending, found_below_cons] at h
              refine List.isChain_cons_cons.2 ⟨fun hopen => ?_, ih hrest (List.cons.inj h).2⟩
              rw [isOpen_tagged, hending] at hopen
              exact nomatch hopen

/-- **Which tags are found.** Where no tag without a description has anything but stars and slashes on
the line below, a comment documents one parameter for each tag, in order, with the name, the type and
the description of its own line. In a comment whose lines all have stars it does so only there: a tag
without a description takes the next line for its own. -/
theorem queryParameters_docblock (lines : List Line) :
    (Separated lines → queryParameters (text lines) = parameters lines) ∧
    ((∀ line ∈ lines.tail, line.IsStarred) →
      (queryParameters (text lines) = parameters lines ↔ Separated lines)) := by
  cases lines with
  | nil => exact ⟨fun _ => rfl, fun _ => ⟨fun _ => .nil, fun _ => rfl⟩⟩
  | cons line rest =>
      rw [queryParameters_text_cons]
      exact ⟨found_of_separated, fun hstarred =>
        ⟨separated_of_found hstarred, found_of_separated⟩⟩

/-- The second tag is taken for the description of the first one. -/
example : queryParameters "/**\n * @queryParam page\n * @queryParam limit integer\n */" =
    [[("name", .str "page"), ("required", .bool false), ("schema", .obj [("type", .str "string")]),
      ("description", .str "* @queryParam limit integer")]] := by decide +kernel

/-- A space, which separates the parts of a tag. -/
def space : Space := ⟨⟨[' '], List.all_eq_true.1 (by decide), by decide⟩, by decide⟩

/-- Nothing. -/
def noGap : Gap := ⟨[], by simp, by simp⟩

/-- A name that is written in ink throughout. -/
def inkName (chars : List Char) (h : chars ≠ [] ∧ chars.all (fun c => !isBlank c) = true) : Name :=
  ⟨chars, h.1, fun c hc => by simpa using List.all_eq_true.1 h.2 c hc⟩

/-- A line of nothing but stars and slashes. -/
def markLine (chars : List Char) (h : '@' ∉ chars ∧ '\n' ∉ chars) : Line :=
  .prose ⟨chars, h.2, unmarked_of_not_mem h.1⟩

/-- A page, and below an empty line how much is on it. -/
def pageLines : List Line :=
  [ markLine "/**".toList (by decide),
    .tagged space.toGap space.toGap
      ⟨space, inkName "page".toList (by decide), none, .gap noGap, by simp⟩,
    markLine " *".toList (by decide),
    .tagged space.toGap space.toGap
      ⟨space, inkName "limit".toList (by decide),
        some (space, ⟨"integer".toList, by decide, List.all_eq_true.1 (by decide)⟩), .gap noGap, by simp⟩,
    markLine " */".toList (by decide) ]

/-- The empty line keeps the tags apart, and both are found. -/
theorem queryParameters_docblock_pages :
    text pageLines = "/**\n * @queryParam page\n *\n * @queryParam limit integer\n */" ∧
      Separated pageLines ∧ (∀ line ∈ pageLines.tail, line.IsStarred) ∧
      queryParameters (text pageLines) = parameters pageLines := by
  have hempty : (markLine " *".toList (by decide)).IsBare := ⟨space.toGap, noGap, [], rfl, by simp⟩
  have hclosing : (markLine " */".toList (by decide)).IsBare :=
    ⟨space.toGap, noGap, ['/'], rfl, by simp⟩
  have hseparated : Separated pageLines :=
    .cons_cons (fun hopen => absurd hopen not_isOpen_prose) <| .cons_cons (fun _ => hempty) <|
      .cons_cons (fun hopen => absurd hopen not_isOpen_prose) <|
        .cons_cons (fun _ => hclosing) (.singleton _)
  have hstarred : ∀ line ∈ pageLines.tail, line.IsStarred := by
    intro line hline
    simp only [pageLines, List.tail_cons, List.mem_cons, List.not_mem_nil, or_false] at hline
    rcases hline with rfl | rfl | rfl | rfl
    all_goals exact ⟨space.toGap, _, rfl⟩
  obtain ⟨-, hiff⟩ := queryParameters_docblock pageLines
  exact ⟨by decide, hseparated, hstarred, (hiff hstarred).2 hseparated⟩

end Docblock

end RouteDoc.Source
