import RouteDoc.Json.Reader
import RouteDoc.Yaml.Scalar
/-!
# RouteDoc.Yaml.Text

**The text of a scalar.** The scalars of YAML may run over several lines; a line break inside one
becomes a blank, and further breaks stay.

Each reader takes the characters behind the mark that opens the scalar and gives the text with
what is left, or nothing where the scalar is malformed. Line breaks are single characters here:
new line, or one of the two separators of Unicode.
-/

namespace RouteDoc.Yaml

/-- Whether a mark may end here: at the end of the text or before a separator. -/
def endsHere (cs : List Char) : Bool := endsMark cs

/-- Whether the line starts with the mark of a document's start or end. -/
def atDocumentMark (cs : List Char) : Bool :=
  match cs with
  | '-' :: '-' :: '-' :: rest => endsHere rest
  | '.' :: '.' :: '.' :: rest => endsHere rest
  | _ => false

/-- The character that a line break stands for. -/
def breakChar (c : Char) : Char := if c.toNat = 0x85 then '\n' else c

/-- The breaks of empty lines from a line's start on; blanks are skipped. A document mark stops. -/
def emptyLines (isSkipped : Char → Bool) : List Char → List Char × List Char
  | [] => ([], [])
  | c :: rest =>
      if isSkipped c then emptyLines isSkipped rest
      else if isBreak c then
        if atDocumentMark rest then ([breakChar c], rest)
        else
          let (breaks, rest) := emptyLines isSkipped rest
          (breakChar c :: breaks, rest)
      else ([], c :: rest)

/-- What line breaks inside a scalar become: one new line alone becomes a blank. -/
def foldedBreaks (first : Char) (more : List Char) : List Char :=
  if breakChar first ≠ '\n' then breakChar first :: more
  else if more.isEmpty then [' '] else more

/-! ### Scalars without quotes -/

/-- Whether a scalar without quotes ends before these characters. -/
def endsWord (inFlow : Bool) : List Char → Bool
  | [] => true
  | c :: rest =>
      isSeparator c
        || (c = ':' && (endsHere rest || (inFlow && rest.head?.any (· ∈ [',', '[', ']', '{', '}']))))
        || (inFlow && c ∈ [',', '?', '[', ']', '{', '}'])

/-- A run of characters without blanks. -/
def word (inFlow : Bool) : List Char → List Char × List Char
  | [] => ([], [])
  | c :: rest =>
      if endsWord inFlow (c :: rest) then ([], c :: rest)
      else
        let (w, rest) := word inFlow rest
        (c :: w, rest)

/-- The blanks behind a word. -/
structure Gap where
  /-- What they become when a word follows; nothing where no word can follow. -/
  text : Option (List Char)
  /-- Whether a line ended. -/
  crossed : Bool
  /-- The column behind the gap, when a line ended. -/
  column : Nat
  /-- What is left. -/
  rest : List Char

/-- The column of what is left, counted from the last line break before it. -/
def columnIn (line rest : List Char) : Nat :=
  let consumed := line.take (line.length - rest.length)
  (consumed.reverse.takeWhile fun c => !isBreak c).length

/-- The gap at the front. -/
def gap (cs : List Char) : Gap :=
  let rest := cs.dropWhile (· = ' ')
  match rest with
  | c :: more =>
      if isBreak c then
        if atDocumentMark more then ⟨none, true, 0, more⟩
        else
          let (breaks, after) := emptyLines (· = ' ') more
          let text := if atDocumentMark after && !breaks.isEmpty && columnIn more after = 0
            then none else some (foldedBreaks c breaks)
          ⟨text, true, columnIn more after, after⟩
      else ⟨some (cs.takeWhile (· = ' ')), false, 0, rest⟩
  | [] => ⟨some (cs.takeWhile (· = ' ')), false, 0, []⟩

/-- Read a scalar without quotes that stands deeper than `indent`. Tells whether a line ended
behind its last word. -/
def plainFrom (inFlow : Bool) (indent : Nat) :
    Nat → List Char → List Char → (List Char × Bool) × List Char
  | 0, done, cs => ((done, false), cs)
  | fuel + 1, done, cs =>
      let (w, rest) := word inFlow cs
      let g := gap rest
      let done := done ++ w
      match g.text with
      | some (b :: blanks) =>
          let stops := g.rest.head? = some '#' || (!inFlow && g.crossed && g.column < indent)
            || endsWord inFlow g.rest
          if stops then ((done, g.crossed), g.rest)
          else plainFrom inFlow indent fuel (done ++ b :: blanks) g.rest
      | _ => ((done, g.crossed), g.rest)

/-! ### Scalars in quotes -/

/-- The character of an escape letter. -/
def escapedChar? : Char → Option Char
  | '0' => some (Char.ofNat 0)
  | 'a' => some (Char.ofNat 7)
  | 'b' => some (Char.ofNat 8)
  | 't' => some '\t'
  | '\t' => some '\t'
  | 'n' => some '\n'
  | 'v' => some (Char.ofNat 11)
  | 'f' => some (Char.ofNat 12)
  | 'r' => some '\r'
  | 'e' => some (Char.ofNat 0x1B)
  | ' ' => some ' '
  | '"' => some '"'
  | '\\' => some '\\'
  | '/' => some '/'
  | 'N' => some (Char.ofNat 0x85)
  | '_' => some (Char.ofNat 0xA0)
  | 'L' => some (Char.ofNat 0x2028)
  | 'P' => some (Char.ofNat 0x2029)
  | _ => none

/-- The number of digits behind an escape letter. -/
def escapeLength? : Char → Option Nat
  | 'x' => some 2
  | 'u' => some 4
  | 'U' => some 8
  | _ => none

/-- Read an escape behind its backslash. -/
def readEscape (cs : List Char) : Option (Char × List Char) :=
  match cs with
  | [] => none
  | c :: rest => match escapedChar? c with
      | some ch => some (ch, rest)
      | none => do
          let n ← escapeLength? c
          let ds := rest.take n
          if ds.length = n && ds.all isHex then
            let code := ds.foldl (fun v d => 16 * v + (Text.hexValue? d).getD 0) 0
            some (Char.ofNat code, rest.drop n)
          else none

/-- Whether the character is a blank inside quotes. -/
def isQuotedBlank (c : Char) : Bool := c = ' ' || c = '\t'

/-- Read the breaks behind the first one inside quotes; a document mark is no part of a scalar. -/
def quotedBreaks (cs : List Char) : Option (List Char × List Char) :=
  if atDocumentMark cs then none
  else
    let (breaks, rest) := emptyLines isQuotedBlank cs
    let atStart := columnIn cs rest = 0
    if atStart && atDocumentMark rest then none else some (breaks, rest.dropWhile isQuotedBlank)

/-- Read a scalar up to its closing quote. -/
def quotedFrom (double : Bool) : Nat → List Char → List Char → Option (List Char × List Char)
  | 0, _, _ => none
  | fuel + 1, done, cs =>
      match cs with
      | [] => none
      | '\'' :: '\'' :: rest =>
          if double then quotedFrom double fuel ('\'' :: '\'' :: done) rest
          else quotedFrom double fuel ('\'' :: done) rest
      | '\\' :: c :: rest =>
          if !double then quotedFrom double fuel ('\\' :: done) (c :: rest)
          else if isBreak c then do
            let (breaks, rest) ← quotedBreaks rest
            quotedFrom double fuel (breaks.reverse ++ done) rest
          else do
            let (ch, rest) ← readEscape (c :: rest)
            quotedFrom double fuel (ch :: done) rest
      | c :: rest =>
          if c = (if double then '"' else '\'') then some (done.reverse, rest)
          else if isQuotedBlank c then
            let after := rest.dropWhile isQuotedBlank
            match after with
            | b :: more =>
                if isBreak b then do
                  let (breaks, rest) ← quotedBreaks more
                  quotedFrom double fuel ((foldedBreaks b breaks).reverse ++ done) rest
                else
                  quotedFrom double fuel ((rest.takeWhile isQuotedBlank).reverse ++ c :: done) after
            | [] => none
          else if isBreak c then do
            let (breaks, rest) ← quotedBreaks rest
            quotedFrom double fuel ((foldedBreaks c breaks).reverse ++ done) rest
          else quotedFrom double fuel (c :: done) rest

/-- Read a scalar behind its opening quote. -/
def readQuoted (double : Bool) (cs : List Char) : Option (String × List Char) :=
  (quotedFrom double (cs.length + 1) [] cs).map fun (text, rest) => (String.ofList text, rest)

/-! ### Blocks of lines -/

/-- What happens to the line breaks at the end of a block. -/
inductive Chomping where
  /-- One stays. -/
  | clip
  /-- None stays. -/
  | strip
  /-- All stay. -/
  | keep
deriving DecidableEq

/-- Read the indicators of a block: chomping and indentation in either order. -/
def blockHeader (cs : List Char) : Option ((Chomping × Option Nat) × List Char) :=
  let chomping : Char → Option Chomping := fun c =>
    if c = '+' then some .keep else if c = '-' then some .strip else none
  let depth : Char → Option Nat := fun c =>
    if '1' ≤ c && c ≤ '9' then some (c.toNat - 48) else none
  match cs with
  | c :: rest => match chomping c, depth c with
      | some k, _ => match rest with
          | d :: more => match depth d with
              | some n => some ((k, some n), more)
              | none => some ((k, none), rest)
          | [] => some ((k, none), [])
      | none, some n => match rest with
          | d :: more => match chomping d with
              | some k => some ((k, some n), more)
              | none => some ((.clip, some n), rest)
          | [] => some ((.clip, some n), [])
      | none, none => some ((.clip, none), cs)
  | [] => some ((.clip, none), [])

/-- Skip the rest of a block's first line: blanks and a comment. -/
def restOfHeader (cs : List Char) : Option (List Char) :=
  if !(cs.head?.all fun c => c = ' ' || isBreak c) then none
  else
    let cs := cs.dropWhile (· = ' ')
    let cs := if cs.head? = some '#' then cs.dropWhile (fun c => !isBreak c) else cs
    match cs with
    | [] => some []
    | c :: rest => if isBreak c then some rest else none

/-- The breaks of empty lines at the start of a block, the greatest column that blanks reach, and
the column of the first character. -/
def blockStart : List Char → Nat → Nat → (List Char × Nat × Nat) × List Char
  | [], column, deepest => (([], deepest, column), [])
  | c :: rest, column, deepest =>
      if c = ' ' then blockStart rest (column + 1) (max deepest (column + 1))
      else if isBreak c then
        let ((breaks, deepest, column), rest) := blockStart rest 0 deepest
        ((breakChar c :: breaks, deepest, column), rest)
      else (([], deepest, column), c :: rest)

/-- The breaks of empty lines inside a block, with the column of what follows. -/
def blockBreaks (indent : Nat) : List Char → Nat → (List Char × Nat) × List Char
  | [], column => (([], column), [])
  | c :: rest, column =>
      if c = ' ' && column < indent then blockBreaks indent rest (column + 1)
      else if isBreak c then
        let ((breaks, column), rest) := blockBreaks indent rest 0
        ((breakChar c :: breaks, column), rest)
      else (([], column), c :: rest)

/-- Whether the line starts with a blank. -/
def startsBlank (cs : List Char) : Bool := cs.head?.any isQuotedBlank

/-- Read the lines of a block; `breaks` are those before the next line. -/
def blockLines (folded : Bool) (indent : Nat) (chomping : Chomping) :
    Nat → List Char → List Char → Nat → List Char → List Char × List Char
  | 0, done, _, _, cs => (done, cs)
  | fuel + 1, done, breaks, column, cs =>
      if column ≠ indent || cs.isEmpty then
        (done ++ (if chomping = .keep then breaks else []), cs)
      else
        let line := cs.takeWhile fun c => !isBreak c
        let after := cs.drop line.length
        let done := done ++ breaks ++ line
        match after with
        | [] => (done, [])
        | b :: rest =>
            let ((breaks, column), rest) := blockBreaks indent rest 0
            if column = indent && !rest.isEmpty then
              let joint :=
                if folded && breakChar b = '\n' && !startsBlank cs && !startsBlank rest then
                  if breaks.isEmpty then [' '] else []
                else [breakChar b]
              blockLines folded indent chomping fuel (done ++ joint) breaks column rest
            else
              let done := if chomping = .strip then done else done ++ [breakChar b]
              (done ++ (if chomping = .keep then breaks else []), rest)

/-- Read a block behind its mark; its lines stand at least at the column `least`. -/
def readBlock (folded : Bool) (least : Nat) (cs : List Char) : Option (String × List Char) := do
  let ((chomping, depth), rest) ← blockHeader cs
  let rest ← restOfHeader rest
  let least := max least 1
  let (indent, breaks, column, rest) := match depth with
    | none =>
        let ((breaks, deepest, column), rest) := blockStart rest 0 0
        (max least deepest, breaks, column, rest)
    | some n =>
        let ((breaks, column), rest) := blockBreaks (least + n - 1) rest 0
        (least + n - 1, breaks, column, rest)
  let (text, rest) := blockLines folded indent chomping (rest.length + 1) [] breaks column rest
  some (String.ofList text, rest)

end RouteDoc.Yaml
