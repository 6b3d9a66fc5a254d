import RouteDoc.Terminal.Width
import RouteDoc.Text.Pieces
/-!
# RouteDoc.Terminal.Wrap

**Texts in lines of a width.** A line is broken before a word that does not fit any more; the white
space behind a word stays with it.

* A word that is wider than a line is cut into pieces or, where it must not be, set by itself.
* In messages a lower-case word in brackets stands for a style and is not shown (`unstyled`).
-/

namespace RouteDoc.Terminal

open RouteDoc.Text

/-! ### Words and lines -/

/-- The words of a line, each with the white space behind it; the first one also has the white
space before it. -/
def wordsOf (fuel : Nat) (cs : List Char) : List (List Char) :=
  match fuel with
  | 0 => []
  | fuel + 1 =>
      let lead := cs.takeWhile isBlank
      let rest := cs.drop lead.length
      let body := rest.takeWhile fun c => !isBlank c
      if body.isEmpty then []
      else
        let behind := rest.drop body.length
        let gap := behind.takeWhile isBlank
        (lead ++ body ++ gap) :: wordsOf fuel (behind.drop gap.length)

/-- Cut a text into pieces of at most a width. -/
def pieces (width : Nat) : Nat → List Char → List (List Char)
  | 0, cs => [cs]
  | fuel + 1, cs =>
      let piece := takeWidth width cs
      if piece.isEmpty || piece.length = cs.length then [cs]
      else piece :: pieces width fuel (cs.drop piece.length)

/-- Lines under construction. -/
structure Lines where
  /-- The finished lines, the last one first. -/
  done : List (List Char) := []
  /-- The current line. -/
  current : List Char := []
  /-- The columns that count as taken in it. -/
  taken : Nat := 0

/-- Start a new line with a text; at the very start the first line is used. -/
def Lines.begin (lines : Lines) (cs : List Char) : Lines :=
  if lines.done.isEmpty && lines.current.isEmpty then { lines with current := cs, taken := widthOf cs }
  else ⟨lines.current :: lines.done, cs, widthOf cs⟩

/-- Add a word. -/
def Lines.addWord (fold : Bool) (width : Nat) (lines : Lines) (word : List Char) : Lines :=
  let own := widthOf (trimBack isBlank word)
  if lines.taken + own ≤ width then
    { lines with current := lines.current ++ word, taken := lines.taken + widthOf word }
  else if width < own then
    if fold then (pieces width word.length word).foldl Lines.begin lines else lines.begin word
  else if lines.taken = 0 then { lines with current := lines.current ++ word }
  else lines.begin word

/-- Take white space off the end of a line as far as it is too wide. -/
def trimExcess (width : Nat) (cs : List Char) : List Char :=
  let gap := (cs.reverse.takeWhile isBlank).length
  cs.take (cs.length - min gap (cs.length - width))

/-- The lines of one line of a text. -/
def wrapLine (fold : Bool) (width : Nat) (cs : List Char) : List (List Char) :=
  let lines := (wordsOf cs.length cs).foldl (Lines.addWord fold width) {}
  let all := (lines.current :: lines.done).reverse
  if (wordsOf cs.length cs).isEmpty then [trimExcess width cs] else all.map (trimExcess width)

/-- The lines of a text. -/
def wrap (fold : Bool) (width : Nat) (s : String) : List (List Char) :=
  (s.toList.splitOn '\n').flatMap (wrapLine fold width)

/-- A line that is cut to a width with a mark at its end, and filled up. -/
def cutLine (width : Nat) (cs : List Char) : List Char :=
  if widthOf cs ≤ width then fitWidth width cs
  else fitWidth (width - 1) cs ++ [Char.ofNat 0x2026]

/-- A line in the middle of a width. -/
def centred (width : Nat) (cs : List Char) : List Char :=
  let body := trimBack isBlank cs
  let body := if widthOf body ≤ width then body else fitWidth width body
  let line := blanks ((width - widthOf body) / 2) ++ body
  line ++ blanks (width - widthOf line)

/-! ### Styles -/

/-- Whether the name of a style may start with the character. -/
def startsStyle (c : Char) : Bool :=
  ('a' ≤ c && c ≤ 'z') || c = '#' || c = '/' || c = '@'

/-- What is behind the style at the front of a text. -/
def behindStyle? : List Char → Option (List Char)
  | '[' :: c :: rest =>
      if startsStyle c then
        let body := rest.takeWhile fun c => c ≠ '[' && c ≠ ']'
        match rest.drop body.length with
        | ']' :: behind => some behind
        | _ => none
      else none
  | _ => none

/-- Leave out styles; a backslash before one keeps it. -/
def dropStyles : Nat → List Char → List Char
  | 0, cs => cs
  | fuel + 1, cs =>
      let bars := (cs.takeWhile (· = '\\')).length
      let rest := cs.drop bars
      match behindStyle? rest with
      | some behind =>
          let kept := List.replicate (bars / 2) '\\'
          if bars % 2 = 0 then kept ++ dropStyles fuel behind
          else kept ++ rest.take (rest.length - behind.length) ++ dropStyles fuel behind
      | none => match rest with
          | [] => cs
          | c :: more => cs.take bars ++ c :: dropStyles fuel more

/-- A text as it is shown: without styles. -/
def unstyled (s : String) : String := String.ofList (dropStyles (s.toList.length + 1) s.toList)

/-! ### Messages -/

/-- The number of columns of a terminal. -/
def columns : Nat := 100

/-- The text of lines. -/
def joinLines (lines : List (List Char)) : String :=
  String.ofList (lines.flatMap fun line => line ++ ['\n'])

/-- A message as it is shown. -/
def message (s : String) : String := joinLines (wrap true columns (unstyled s))

end RouteDoc.Terminal
