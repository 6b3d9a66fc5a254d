import RouteDoc.Source.Literal
/-!
# RouteDoc.Proofs.Source.Literal

**A text in quotes is read back.** Inside quotes a text is written with a backslash before each
quote and before each backslash (`written`). Reading does not go over what is written once: it takes
the backslashes before quotes away everywhere, and then halves the pairs of backslashes.

* The first pass leaves the text with its backslashes doubled (`replaceChars_quote_escape`). Pairs
  of backslashes may stand before a quote, but the rest of what is written never starts with the
  quote itself (`head?_escape_ne`), so the pass takes the quote's own backslash and none of a pair.
* The second pass undoes the doubling (`replaceChars_backslash_escape`).
-/

namespace RouteDoc.Source.Literal

open RouteDoc.Text

/-! ### What is written -/

/-- A character inside quotes: behind a backslash, if it is one or the quote. -/
def escapeChar (quote c : Char) : List Char := if c = '\\' ∨ c = quote then ['\\', c] else [c]

/-- A text inside quotes. With a backslash for the quote, its backslashes are doubled and nothing
else is changed. -/
def escape (quote : Char) (cs : List Char) : List Char := cs.flatMap (escapeChar quote)

/-- A text in quotes. -/
def written (quote : Char) (s : String) : String :=
  String.ofList (quote :: (escape quote s.toList ++ [quote]))

variable {quote : Char}

theorem escape_cons_backslash (quote : Char) (cs : List Char) :
    escape quote ('\\' :: cs) = '\\' :: '\\' :: escape quote cs := by
  simp [escape, escapeChar]

theorem escape_cons_quote (quote : Char) (cs : List Char) :
    escape quote (quote :: cs) = '\\' :: quote :: escape quote cs := by
  simp [escape, escapeChar]

theorem escape_cons_of_ne {c : Char} (hslash : c ≠ '\\') (hquote : c ≠ quote) (cs : List Char) :
    escape quote (c :: cs) = c :: escape quote cs := by
  simp [escape, escapeChar, hslash, hquote]

theorem head?_escape_ne (hquote : quote ≠ '\\') (cs : List Char) :
    (escape quote cs).head? ≠ some quote := by
  cases cs with
  | nil => simp [escape]
  | cons c rest =>
      rw [escape, List.flatMap_cons, escapeChar]
      split
      · simpa using hquote.symm
      · rename_i hplain
        simpa using fun hc => hplain (.inr hc)

/-! ### Pairs of characters -/

theorem not_pair_prefix_of_ne {a c : Char} (h : c ≠ a) (b : Char) (rest : List Char) :
    ¬ [a, b] <+: c :: rest := fun hpair => h (List.cons_prefix_cons.1 hpair).1.symm

theorem not_pair_prefix_of_head? {b : Char} {rest : List Char} (h : rest.head? ≠ some b)
    (a c : Char) : ¬ [a, b] <+: c :: rest := by
  intro hpair
  obtain ⟨tail, rfl⟩ := (List.cons_prefix_cons.1 hpair).2
  exact h rfl

/-! ### The two passes -/

/-- The first pass leaves the text with its backslashes doubled. -/
theorem replaceChars_quote_escape (hquote : quote ≠ '\\') (cs : List Char) :
    replaceChars ['\\', quote] [quote] (escape quote cs) = escape '\\' cs := by
  induction cs with
  | nil => rfl
  | cons c rest ih =>
      by_cases hslash : c = '\\'
      · -- neither the first of the pair nor the second stands before a quote
        have hfirst : ('\\' :: escape quote rest).head? ≠ some quote := by
          simpa using hquote.symm
        have hsecond : (escape quote rest).head? ≠ some quote := head?_escape_ne hquote rest
        rw [hslash, escape_cons_backslash, escape_cons_backslash,
          replaceChars_cons (not_pair_prefix_of_head? hfirst _ _),
          replaceChars_cons (not_pair_prefix_of_head? hsecond _ _), ih]
      · by_cases hc : c = quote
        · rw [hc, escape_cons_quote, escape_cons_of_ne hquote hquote, ← ih]
          exact replaceChars_append (List.cons_ne_nil _ _) [quote] (escape quote rest)
        · rw [escape_cons_of_ne hslash hc, escape_cons_of_ne hslash hslash,
            replaceChars_cons (not_pair_prefix_of_ne hslash _ _), ih]

/-- The second pass undoes the doubling of backslashes. -/
theorem replaceChars_backslash_escape (cs : List Char) :
    replaceChars ['\\', '\\'] ['\\'] (escape '\\' cs) = cs := by
  induction cs with
  | nil => rfl
  | cons c rest ih =>
      by_cases hslash : c = '\\'
      · have hpair := replaceChars_append (List.cons_ne_nil '\\' ['\\']) ['\\'] (escape '\\' rest)
        rw [ih] at hpair
        rw [hslash, escape_cons_backslash]
        exact hpair
      · rw [escape_cons_of_ne hslash hslash,
          replaceChars_cons (not_pair_prefix_of_ne hslash _ _), ih]

theorem unescape_escape (hquote : quote ≠ '\\') (cs : List Char) :
    unescape quote (escape quote cs) = cs := by
  rw [unescape, replaceChars_quote_escape hquote, replaceChars_backslash_escape]

/-! ### A text in quotes -/

theorem unquoteChars_of_quoted (hquote : quote = '\'' ∨ quote = '"') (body : List Char) :
    unquoteChars (quote :: (body ++ [quote])) = unescape quote body := by
  have hquoted : (decide (quote = '\'') || decide (quote = '"')) &&
      (body ++ [quote]).getLast? = some quote := by
    simpa using hquote
  rw [unquoteChars, if_pos hquoted, List.dropLast_concat]

/-- **The value of a text in quotes is the text**, for quotes of both kinds and however many
backslashes stand in a row, before a quote or at the end. -/
theorem unquote_written (hquote : quote = '\'' ∨ quote = '"') (s : String) :
    unquote (written quote s) = s := by
  have hslash : quote ≠ '\\' := by
    rintro rfl
    exact absurd hquote (by decide)
  rw [unquote, written, String.toList_ofList, unquoteChars_of_quoted hquote,
    unescape_escape hslash, String.ofList_toList]

/-- Two backslashes before a quote, one before another character, and one at the end. -/
theorem unquote_written_backslashes : unquote "'\\\\\\\\\\'\\\\d\\\\'" = "\\\\'\\d\\" := by
  have hwritten : "'\\\\\\\\\\'\\\\d\\\\'" = written '\'' "\\\\'\\d\\" := by decide
  rw [hwritten]
  exact unquote_written (.inl rfl) _

end RouteDoc.Source.Literal
