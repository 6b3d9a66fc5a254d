import RouteDoc.Json.Writer
import RouteDoc.Yaml.Plain
/-!
# RouteDoc.Yaml.Scalar

**How one text is written.** A text stands without quotes where it would be read back as the same
text, else in single quotes, and in double quotes where single ones cannot hold it.

* `Style.of` chooses the style from what the text holds: marks of the format, line breaks, blanks
  at the edges, characters that need an escape.
* `flow` and `flowEscaped` write the characters; lines that grow too long are folded at single
  blanks, and in double quotes at any blank, behind a backslash.
-/

namespace RouteDoc.Yaml

/-- The column behind which lines are folded. -/
def lineWidth : Nat := 120

/-- Whether the character breaks a line. -/
def isBreak (c : Char) : Bool :=
  c = '\n' || c.toNat = 0x85 || c.toNat = 0x2028 || c.toNat = 0x2029

/-- Whether the character separates words for the marks of the format. -/
def isSeparator (c : Char) : Bool :=
  isBreak c || c = ' ' || c = '\t' || c = '\r' || c.toNat = 0

/-- Whether the character can be written as it is. -/
def isPlainChar (c : Char) : Bool :=
  let n := c.toNat
  c = '\n' || (0x20 ≤ n && n ≤ 0x7E) || n = 0x85
    || (0xA0 ≤ n && n ≤ 0xFFFD && n ≠ 0xFEFF) || (0x10000 ≤ n && n < 0x10FFFF)

/-- Whether a pair of neighbours satisfies a condition. -/
def anyPair (p : Char → Char → Bool) : List Char → Bool
  | a :: b :: rest => p a b || anyPair p (b :: rest)
  | _ => false

/-- Whether the character is at an edge of the text. -/
def atEdge (p : Char → Bool) (cs : List Char) : Bool :=
  cs.head?.any p || cs.getLast?.any p

/-- Marks that no plain text starts with. -/
def leadingMarks : List Char :=
  ['#', ',', '[', ']', '{', '}', '&', '*', '!', '|', '>', '\'', '"', '%', '@', Char.ofNat 0x60]

/-- Whether what follows a mark makes it one. -/
def endsMark : List Char → Bool
  | [] => true
  | c :: _ => isSeparator c

/-- Whether a colon or a number sign inside the text is a mark; `before` tells whether a separator
stands before the rest. -/
def holdsInnerMark (before : Bool) : List Char → Bool
  | [] => false
  | c :: rest =>
      (c = ':' && endsMark rest) || (c = '#' && before) || holdsInnerMark (isSeparator c) rest

/-- Whether the text starts with a mark. -/
def startsWithMark : List Char → Bool
  | '-' :: '-' :: '-' :: _ => true
  | '.' :: '.' :: '.' :: _ => true
  | c :: rest => c ∈ leadingMarks || ((c = '?' || c = '-') && endsMark rest)
  | [] => false

/-- How a text is written. -/
inductive Style where
  | plain | single | double
deriving DecidableEq, Repr

/-- Whether single quotes can hold the text. -/
def fitsSingle (cs : List Char) : Bool :=
  cs.all isPlainChar
    && !anyPair (fun a b => (isBreak a && b = ' ') || (a = ' ' && isBreak b)) cs

/-- Whether the text can stand without quotes, whatever it would be read as. -/
def fitsPlain (cs : List Char) : Bool :=
  fitsSingle cs && !cs.any isBreak && !atEdge (· = ' ') cs
    && !startsWithMark cs && !holdsInnerMark true cs

/-- The style of a text. -/
def Style.of (s : String) : Style :=
  let cs := s.toList
  if cs.isEmpty then .single
  else if fitsPlain cs && Kind.ofPlain s = .text then .plain
  else if fitsSingle cs then .single
  else .double

/-! ### Writing the characters -/

/-- A new line and the blanks of an indentation. -/
def newline (indent : Nat) : List Char := '\n' :: List.replicate indent ' '

/-- How the lines of a scalar are laid out. -/
structure Lines where
  /-- The indentation of the lines behind the first. -/
  indent : Nat
  /-- Whether lines may be folded. -/
  folds : Bool

/-- Whether a blank between two characters may become a line break. -/
def Lines.foldsAt (l : Lines) (column : Nat) (before : Option Char) (rest : List Char) : Bool :=
  l.folds && lineWidth < column && before.any (· ≠ ' ') && rest.head?.any (· ≠ ' ')

/-- A line break of a text: the first one is doubled, and the last one is followed by the
indentation. -/
def Lines.breakText (l : Lines) (before : Option Char) (c : Char) (rest : List Char) : List Char :=
  let first := !before.any isBreak
  let last := !rest.head?.any isBreak
  (if first && c = '\n' then ['\n'] else []) ++ c ::
    (if last then List.replicate l.indent ' ' else [])

/-- Write the characters of a plain or single-quoted text; a single quote is doubled on demand. -/
def Lines.flow (l : Lines) (doubles : Bool) (before : Option Char) (column : Nat) :
    List Char → List Char
  | [] => []
  | c :: rest =>
      if c = ' ' && l.foldsAt column before rest then
        newline l.indent ++ l.flow doubles (some c) l.indent rest
      else if isBreak c then
        l.breakText before c rest
          ++ l.flow doubles (some c) (if rest.head?.any isBreak then 0 else l.indent) rest
      else if doubles && c = '\'' then
        '\'' :: '\'' :: l.flow doubles (some c) (column + 2) rest
      else c :: l.flow doubles (some c) (column + 1) rest

/-- The letter of a short escape. -/
def shortEscape? (c : Char) : Option Char :=
  match c.toNat with
  | 0 => some '0'
  | 7 => some 'a'
  | 8 => some 'b'
  | 9 => some 't'
  | 10 => some 'n'
  | 11 => some 'v'
  | 12 => some 'f'
  | 13 => some 'r'
  | 0x1B => some 'e'
  | 0x22 => some '"'
  | 0x5C => some '\\'
  | 0x85 => some 'N'
  | 0x2028 => some 'L'
  | 0x2029 => some 'P'
  | _ => none

/-- The digits of an escape, in upper case. -/
def escapeDigits (width n : Nat) : List Char :=
  let ds := (Nat.toDigits 16 n).map Char.toUpper
  List.replicate (width - ds.length) '0' ++ ds

/-- The escape of a character that double quotes cannot hold as it is. -/
def escape? (c : Char) : Option (List Char) :=
  let n := c.toNat
  match shortEscape? c with
  | some letter => some ['\\', letter]
  | none =>
      if (0x20 ≤ n && n ≤ 0x7E) || (0xA0 ≤ n && n ≤ 0xFFFD && n ≠ 0xFEFF) then none
      else if n ≤ 0xFF then some ('\\' :: 'x' :: escapeDigits 2 n)
      else if n ≤ 0xFFFF then some ('\\' :: 'u' :: escapeDigits 4 n)
      else some ('\\' :: 'U' :: escapeDigits 8 n)

/-- What starts a folded line of a double-quoted text: a blank needs a backslash there. -/
def Lines.folded (l : Lines) (next : Option Char) : List Char × Nat :=
  if next = some ' ' then ('\\' :: newline l.indent ++ ['\\'], l.indent + 1)
  else ('\\' :: newline l.indent, l.indent)

/-- Write the characters of a double-quoted text. `start` holds at its first character, `fresh`
where an escape, a fold or the start comes right before. -/
def Lines.flowEscaped (l : Lines) (start fresh : Bool) (column : Nat) : List Char → List Char
  | [] => []
  | c :: rest =>
      let inside := l.folds && !start && !rest.isEmpty
      match escape? c with
      | some form =>
          let column := column + form.length
          if inside && lineWidth + 1 < column then
            let (fold, column) := l.folded rest.head?
            form ++ fold ++ l.flowEscaped false true column rest
          else form ++ l.flowEscaped false true column rest
      | none =>
          if inside && (c = ' ' || fresh) && lineWidth < column then
            let (fold, column) := l.folded (some c)
            fold ++ c :: l.flowEscaped false false (column + 1) rest
          else c :: l.flowEscaped false false (column + 1) rest

/-- Write a text in its style; its first character stands in the given column. -/
def Lines.scalar (l : Lines) (column : Nat) (s : String) : List Char :=
  match Style.of s with
  | .plain => l.flow false none column s.toList
  | .single => '\'' :: l.flow true none (column + 1) s.toList ++ ['\'']
  | .double => '"' :: l.flowEscaped true true (column + 1) s.toList ++ ['"']

end RouteDoc.Yaml
