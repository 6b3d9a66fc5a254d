import RouteDoc.Rule.Transform
/-!
# RouteDoc.Proofs.Rule.Pattern

**What is taken off a regular expression, and what is left of it.** A written rule `regex:/body/i`
is read in two steps. The token is cut at its first colon, behind the name (`Token.parse_written`).
The delimiters are then the first character and its last place, if flags alone follow that
(`undelimited?_eq_some_iff`), so the body may hold anything. `fieldSchema_regex` puts the two
together.
-/

namespace RouteDoc.Rule

open RouteDoc.Text

/-! ### Delimiters -/

/-- What may stand behind a closing delimiter. -/
def IsFlags (cs : List Char) : Prop :=
  ∃ letters, (∀ c ∈ letters, c.isAlpha = true) ∧ (cs = letters ∨ cs = letters ++ ['\n'])

theorem areFlags_iff {cs : List Char} : areFlags cs = true ↔ IsFlags cs := by
  constructor
  · intro h
    have hcs := List.takeWhile_append_dropWhile (p := Char.isAlpha) (l := cs)
    have hletters : ∀ c ∈ cs.takeWhile Char.isAlpha, c.isAlpha = true := by
      have hall := List.all_takeWhile (p := Char.isAlpha) (l := cs)
      exact List.all_eq_true.1 hall
    refine ⟨cs.takeWhile Char.isAlpha, hletters, ?_⟩
    unfold areFlags at h
    split at h
    · rename_i hdrop
      rw [hdrop, List.append_nil] at hcs
      exact .inl hcs.symm
    · rename_i hdrop
      rw [hdrop] at hcs
      exact .inr hcs.symm
    · cases h
  · rintro ⟨letters, hletters, hcs | hcs⟩
    · rw [hcs, areFlags, ← List.append_nil letters, List.dropWhile_append_of_pos hletters]
      rfl
    · rw [hcs, areFlags, List.dropWhile_append_of_pos hletters]
      rfl

/-- No delimiter is a flag. -/
theorem IsFlags.not_mem {cs : List Char} (h : IsFlags cs) {d : Char} (hd : d ∈ delimiters) :
    d ∉ cs := by
  have hnone : delimiters.all (fun d => !d.isAlpha && d ≠ '\n') = true := by decide
  have hthis := List.all_eq_true.1 hnone d hd
  rw [Bool.and_eq_true, Bool.not_eq_true', decide_eq_true_eq] at hthis
  obtain ⟨halpha, hnewline⟩ := hthis
  have hletter : ∀ letters : List Char, (∀ c ∈ letters, c.isAlpha = true) → d ∉ letters := by
    intro letters hletters hmem
    rw [hletters d hmem] at halpha
    cases halpha
  obtain ⟨letters, hletters, hcs | hcs⟩ := h
  · exact hcs ▸ hletter letters hletters
  · rw [hcs, List.mem_append, List.mem_singleton, not_or]
    exact ⟨hletter letters hletters, hnewline⟩

/-- What stands between the first character and its last place. -/
theorem undelimited?_append {d : Char} (hd : d ∈ delimiters) (body : List Char)
    {flags : List Char} (h : d ∉ flags) :
    undelimited? (d :: (body ++ d :: flags)) =
      if areFlags flags = true then some body else none := by
  obtain ⟨hbefore, hafter⟩ := lastChars_append body h
  rw [undelimited?, if_pos ⟨hd, by simp⟩, hbefore, hafter]

/-- **When an expression is delimited, and by what**: the body is all that stands between a
delimiter in front and the same one with only flags behind it. -/
theorem undelimited?_eq_some_iff {cs body : List Char} :
    undelimited? cs = some body ↔
      ∃ d ∈ delimiters, ∃ flags, IsFlags flags ∧ cs = d :: (body ++ d :: flags) := by
  constructor
  · intro h
    cases cs with
    | nil => simp [undelimited?] at h
    | cons d rest =>
        by_cases hdelimited : d ∈ delimiters ∧ d ∈ rest
        · obtain ⟨hd, hmem⟩ := hdelimited
          -- the last place of the delimiter is the first one from behind
          obtain ⟨after, before, hreverse, hafter⟩ :=
            List.eq_append_cons_of_mem (List.mem_reverse.2 hmem)
          have hrest : rest = before.reverse ++ d :: after.reverse := by
            rw [← List.reverse_reverse rest, hreverse]
            simp
          have hout : d ∉ after.reverse := fun hd => hafter (List.mem_reverse.1 hd)
          rw [hrest, undelimited?_append hd _ hout] at h
          split at h
          · rename_i hflags
            rw [← Option.some.inj h, hrest]
            exact ⟨d, hd, _, areFlags_iff.1 hflags, rfl⟩
          · cases h
        · rw [undelimited?, if_neg hdelimited] at h
          cases h
  · rintro ⟨d, hd, flags, hflags, rfl⟩
    rw [undelimited?_append hd body (hflags.not_mem hd), if_pos (areFlags_iff.2 hflags)]

/-! ### Tokens -/

/-- Whether a character of a name is read as it is written: it is in lower case, and neither white
space nor a colon. -/
def isNameChar (c : Char) : Bool := isAscii c && c.toLower = c && !isBlank c && c ≠ ':'

/-- A name that is read as it is written. -/
def IsRuleName (name : String) : Prop := name ≠ "" ∧ name.toList.all isNameChar = true

instance (name : String) : Decidable (IsRuleName name) :=
  inferInstanceAs (Decidable (name ≠ "" ∧ name.toList.all isNameChar = true))

theorem IsRuleName.char {name : String} (h : IsRuleName name) {c : Char} (hc : c ∈ name.toList) :
    isAscii c = true ∧ c.toLower = c ∧ isBlank c = false ∧ c ≠ ':' := by
  have hchar := List.all_eq_true.1 h.2 c hc
  simpa [isNameChar, and_assoc] using hchar

theorem IsRuleName.trim {name : String} (h : IsRuleName name) : trim name = name :=
  trim_eq_self (fun _ hc => (h.char (List.mem_of_mem_head? hc)).2.2.1)
    fun _ hc => (h.char (List.mem_of_getLast? hc)).2.2.1

theorem IsRuleName.lower {name : String} (h : IsRuleName name) : lower name = name := by
  have hmap : name.toList.map Char.toLower = name.toList :=
    (List.map_congr_left fun _ hc => (h.char hc).2.1).trans (List.map_id _)
  rw [lower_ascii fun _ hc => (h.char hc).1, hmap, String.ofList_toList]

/-- A token with a name and an argument is read back, unless white space ends the argument. -/
theorem Token.parse_written {name argument : String} (hname : IsRuleName name)
    (hend : ∀ c, argument.toList.getLast? = some c → isBlank c = false) :
    Token.parse (name ++ ":" ++ argument) = ⟨name, some argument⟩ := by
  have hwritten : (name ++ ":" ++ argument).toList = name.toList ++ ':' :: argument.toList := by
    simp
  have hcolon : ':' ∉ name.toList := fun h => (hname.char h).2.2.2 rfl
  have htrim : Text.trim (name ++ ":" ++ argument) = name ++ ":" ++ argument := by
    refine trim_eq_self (fun c hc => ?_) fun c hc => ?_
    · rw [hwritten] at hc
      cases hcs : name.toList with
      | nil => exact absurd (String.toList_eq_nil_iff.1 hcs) hname.1
      | cons d rest =>
          rw [hcs] at hc
          obtain rfl : d = c := by simpa using hc
          exact (hname.char (by simp [hcs])).2.2.1
    · rw [hwritten, List.getLast?_append, List.getLast?_cons] at hc
      obtain rfl : argument.toList.getLast?.getD ':' = c := by simpa using hc
      cases hlast : argument.toList.getLast? with
      | none => decide
      | some c => exact hend c hlast
  rw [Token.parse, htrim, cut?, hwritten, cutChars_append hcolon]
  simp [hname.trim, hname.lower]

/-! ### A regular expression as the rule of a field -/

/-- The pattern that an argument of `regex` stands for: without delimiters, if it has them. -/
def patternOf (argument : String) : String :=
  String.ofList ((undelimited? argument.toList).getD argument.toList)

theorem apply_pattern (schema : Fragment) (name : String) {argument : String}
    (hne : argument ≠ "") :
    TokenEffect.pattern.apply schema ⟨name, some argument⟩ =
      Table.insert schema "pattern" (.str (patternOf argument)) := by
  dsimp only [TokenEffect.apply]
  split
  · rename_i h
    cases h
  · rename_i h
    exact absurd (Option.some.inj h) hne
  · rename_i raw _ h
    obtain rfl := Option.some.inj h
    rfl

theorem fieldSchema_regex_argument {argument : String} (hne : argument ≠ "")
    (hend : ∀ c, argument.toList.getLast? = some c → isBlank c = false) :
    (Expr.list [.text ("regex:" ++ argument)]).fieldSchema =
      .ok ([("type", .str "string"), ("pattern", .str (patternOf argument))], []) := by
  have hname : IsRuleName "regex" := by decide
  have hcolon : "regex:" = "regex" ++ ":" := by decide
  have hparse : Token.parse ("regex:" ++ argument) = ⟨"regex", some argument⟩ := by
    rw [hcolon, Token.parse_written hname hend]
  have hblank : isBlankText ("regex:" ++ argument) = false := by
    have hr : 'r' ∈ ("regex:" ++ argument).toList := by
      rw [String.toList_append]
      exact List.mem_append_left _ (by decide)
    exact List.all_eq_false.2 ⟨'r', hr, by decide⟩
  have hitems : (Expr.list [.text ("regex:" ++ argument)]).items =
      .ok [.token ⟨"regex", some argument⟩] := by
    simp [Expr.items, Entry.item?, hblank, hparse]
  have heffect : Table.get? tokenEffects "regex" = some .pattern := by decide
  have happly : Token.apply ⟨"regex", some argument⟩ plainField =
      [("type", .str "string"), ("pattern", .str (patternOf argument))] := by
    rw [Token.apply, heffect]
    exact apply_pattern plainField "regex" hne
  rw [Expr.fieldSchema, hitems, Except.map, applyItems, List.foldl_cons, List.foldl_nil, applyItem,
    Item.apply, happly]

/-- A regular expression as it is written: a body between delimiters, with flags behind it. -/
def delimited (d : Char) (body flags : String) : String :=
  String.singleton d ++ body ++ String.singleton d ++ flags

theorem toList_delimited (d : Char) (body flags : String) :
    (delimited d body flags).toList = d :: (body.toList ++ d :: flags.toList) := by
  simp [delimited]

/-- No white space ends an expression: its last character is a flag or the delimiter. -/
theorem isBlank_getLast?_delimited {d : Char} (hd : d ∈ delimiters) (body : String)
    {flags : String} (hflags : ∀ c ∈ flags.toList, c.isAlpha = true) :
    ∀ c, (delimited d body flags).toList.getLast? = some c → isBlank c = false := by
  have hnone : delimiters.all (fun d => !isBlank d) = true := by decide
  intro c hc
  rw [toList_delimited, ← List.cons_append, List.getLast?_append, List.getLast?_cons] at hc
  have hmem : c ∈ d :: flags.toList := by
    refine List.mem_of_getLast? ?_
    rw [List.getLast?_cons]
    simpa using hc
  rcases List.mem_cons.1 hmem with rfl | hflag
  · simpa using List.all_eq_true.1 hnone c hd
  · exact isBlank_of_isAlpha (hflags c hflag)

theorem mem_delimiters {d : Char} : d ∈ delimiters ↔ d ∈ ['/', '#', '~', '!', '%'] := Iff.rfl

/-- **A delimited expression leaves its body as the pattern**, whatever the body holds: the
delimiter itself, flags behind it, colons, bars or line ends. -/
theorem fieldSchema_regex {d : Char} (hd : d ∈ ['/', '#', '~', '!', '%']) (body : String)
    {flags : String} (hflags : ∀ c ∈ flags.toList, c.isAlpha = true) :
    (Expr.list [.text ("regex:" ++ delimited d body flags)]).fieldSchema =
      .ok ([("type", .str "string"), ("pattern", .str body)], []) := by
  rw [← mem_delimiters] at hd
  have hne : delimited d body flags ≠ "" := by
    rw [ne_eq, ← String.toList_eq_nil_iff, toList_delimited]
    exact List.cons_ne_nil _ _
  have hbody : undelimited? (delimited d body flags).toList = some body.toList :=
    undelimited?_eq_some_iff.2 ⟨d, hd, _, ⟨_, hflags, .inl rfl⟩, toList_delimited ..⟩
  have hpattern : patternOf (delimited d body flags) = body := by
    rw [patternOf, hbody, Option.getD_some, String.ofList_toList]
  rw [fieldSchema_regex_argument hne (isBlank_getLast?_delimited hd body hflags), hpattern]

/-- A body that holds its delimiter, once with a letter behind it, and a colon, a bar, a comma and
a line end. -/
theorem fieldSchema_regex_inner_delimiter :
    (Expr.list [.text "regex:/^a/i:b|c,\n/$/iu"]).fieldSchema =
      .ok ([("type", .str "string"), ("pattern", .str "^a/i:b|c,\n/$")], []) := by
  have hwritten : "regex:/^a/i:b|c,\n/$/iu" =
      "regex:" ++ delimited '/' "^a/i:b|c,\n/$" "iu" := by decide
  rw [hwritten]
  exact fieldSchema_regex (by decide) _ (List.all_eq_true.1 (by decide))

end RouteDoc.Rule
