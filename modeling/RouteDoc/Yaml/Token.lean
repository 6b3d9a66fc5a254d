import RouteDoc.Yaml.Text
/-!
# RouteDoc.Yaml.Token

**YAML as a list of tokens.** Indentation becomes tokens that open and close blocks, so what follows
needs no columns.

* A block opens where an entry or a key stands deeper than the block around it, and closes where a
  line starts further left (`Scanner.unwind`).
* Whether something is a key is known only at its colon. The scanner therefore remembers where a
  key may have started (`Candidate`) and puts the tokens in there afterwards.
-/

namespace RouteDoc.Yaml

/-- A token of a document. -/
inductive Token where
  /-- A list of lines starts. -/
  | blockList
  /-- A mapping of lines starts. -/
  | blockMapping
  /-- The innermost block ends. -/
  | blockEnd
  /-- A list in brackets starts. -/
  | flowList
  /-- A list in brackets ends. -/
  | flowListEnd
  /-- A mapping in braces starts. -/
  | flowMapping
  /-- A mapping in braces ends. -/
  | flowMappingEnd
  /-- An item of a list of lines. -/
  | item
  /-- A comma. -/
  | comma
  /-- A key follows. -/
  | key
  /-- A value follows. -/
  | value
  /-- The name of a node follows later. -/
  | anchor (name : String)
  /-- A node that was named before. -/
  | alias (name : String)
  /-- A scalar; those without quotes may stand for other values than texts. -/
  | scalar (plain : Bool) (text : String)
  /-- The mark before a document. -/
  | documentStart
  /-- The mark behind a document. -/
  | documentEnd
deriving DecidableEq, Inhabited

/-- A place where a key may have started. -/
structure Candidate where
  /-- The number of tokens before it. -/
  position : Nat
  /-- Whether nothing but a key may stand there. -/
  required : Bool
  /-- The number of characters left from there on. -/
  left : Nat
  /-- The line. -/
  line : Nat
  /-- The column. -/
  column : Nat

/-- The state of a scanner. -/
structure Scanner where
  /-- The characters that are left. -/
  rest : List Char
  /-- The line of the next character. -/
  line : Nat := 0
  /-- The column of the next character. -/
  column : Nat := 0
  /-- The column of the innermost block; none at the start. -/
  indent : Int := -1
  /-- The columns of the blocks around it. -/
  outer : List Int := []
  /-- The number of open brackets and braces. -/
  depth : Nat := 0
  /-- Whether a key may start here. -/
  keyAllowed : Bool := true
  /-- The candidate of each depth. -/
  candidates : Table Nat Candidate := []
  /-- The tokens so far, the last one first. -/
  tokens : List Token := []

namespace Scanner

/-- Go on to a later place. -/
def moveTo (s : Scanner) (rest : List Char) : Scanner :=
  let consumed := s.rest.take (s.rest.length - rest.length)
  let breaks := (consumed.filter isBreak).length
  let tail := (consumed.reverse.takeWhile fun c => !isBreak c).length
  { s with rest, line := s.line + breaks, column := if breaks = 0 then s.column + tail else tail }

/-- Append a token. -/
def emit (s : Scanner) (t : Token) : Scanner := { s with tokens := t :: s.tokens }

/-- Put a token behind the first ones. -/
def emitAt (s : Scanner) (position : Nat) (t : Token) : Scanner :=
  let behind := s.tokens.length - position
  { s with tokens := s.tokens.take behind ++ t :: s.tokens.drop behind }

/-- Skip blanks, comments and line breaks. Outside brackets a key may start on a new line. -/
def skip (s : Scanner) : Nat → Scanner
  | 0 => s
  | fuel + 1 =>
      let rest := s.rest.dropWhile (· = ' ')
      let rest := if rest.head? = some '#' then rest.dropWhile (fun c => !isBreak c) else rest
      match rest with
      | c :: more =>
          if isBreak c then
            let s := s.moveTo more
            skip (if s.depth = 0 then { s with keyAllowed := true } else s) fuel
          else s.moveTo rest
      | [] => s.moveTo rest

/-- The greatest number of characters of a key that stands without a mark. -/
def keyLength : Nat := 1024

/-- Give up candidates of earlier lines; a required one must not be given up. -/
def dropStale (s : Scanner) : Option Scanner :=
  let isStale (c : Candidate) : Bool :=
    c.line ≠ s.line || keyLength < c.left - s.rest.length
  if s.candidates.any fun e => isStale e.2 && e.2.required then none
  else some { s with candidates := s.candidates.filter fun e => !isStale e.2 }

/-- Give up the candidate of the current depth. -/
def dropCandidate (s : Scanner) : Option Scanner :=
  match Table.get? s.candidates s.depth with
  | none => some s
  | some c => if c.required then none
      else some { s with candidates := Table.erase s.candidates s.depth }

/-- Note that a key may start here. -/
def saveCandidate (s : Scanner) : Option Scanner :=
  if s.keyAllowed then do
    let s ← s.dropCandidate
    let required := s.depth = 0 && s.indent = s.column
    let c : Candidate := ⟨s.tokens.length, required, s.rest.length, s.line, s.column⟩
    some { s with candidates := Table.insert s.candidates s.depth c }
  else some s

/-- Close blocks from the innermost on while they stand deeper than a column. -/
def closeBlocks (column : Int) (indent : Int) (tokens : List Token) :
    List Int → Int × List Int × List Token
  | [] => (indent, [], tokens)
  | i :: outer =>
      if column < indent then closeBlocks column i (.blockEnd :: tokens) outer
      else (indent, i :: outer, tokens)

/-- Close the blocks that stand deeper than a column; inside brackets columns mean nothing. -/
def unwind (s : Scanner) (column : Int) : Scanner :=
  if s.depth = 0 then
    let (indent, outer, tokens) := closeBlocks column s.indent s.tokens s.outer
    { s with indent, outer, tokens }
  else s

/-- Open a block at a column when it stands deeper than the one around it, with its token behind
the first ones. -/
def openBlock (s : Scanner) (column position : Nat) (t : Token) : Scanner :=
  if s.depth = 0 && s.indent < column then
    { s with indent := column, outer := s.indent :: s.outer }.emitAt position t
  else s

/-- Go on behind a mark of so many characters. -/
def pass (s : Scanner) (count : Nat) : Scanner := s.moveTo (s.rest.drop count)

/-- Open a list or mapping in brackets. -/
def openFlow (s : Scanner) (t : Token) : Option Scanner := do
  let s ← s.saveCandidate
  some (({ s with depth := s.depth + 1, keyAllowed := true }.pass 1).emit t)

/-- Close a list or mapping in brackets. -/
def closeFlow (s : Scanner) (t : Token) : Option Scanner := do
  let s ← s.dropCandidate
  if s.depth = 0 then none
  else some (({ s with depth := s.depth - 1, keyAllowed := false }.pass 1).emit t)

/-- A comma. -/
def comma (s : Scanner) : Option Scanner := do
  let s ← s.dropCandidate
  some (({ s with keyAllowed := true }.pass 1).emit .comma)

/-- The dash before an item. -/
def item (s : Scanner) : Option Scanner := do
  if s.depth = 0 && !s.keyAllowed then none
  else
    let s := s.openBlock s.column s.tokens.length .blockList
    let s ← { s with keyAllowed := true }.dropCandidate
    some ((s.pass 1).emit .item)

/-- The question mark before a key. -/
def key (s : Scanner) : Option Scanner := do
  if s.depth = 0 && !s.keyAllowed then none
  else
    let s := s.openBlock s.column s.tokens.length .blockMapping
    let s ← { s with keyAllowed := s.depth = 0 }.dropCandidate
    some ((s.pass 1).emit .key)

/-- The colon before a value. With a candidate, the key is put in where that one started. -/
def value (s : Scanner) : Option Scanner := do
  match Table.get? s.candidates s.depth with
  | some c =>
      let s := { s with candidates := Table.erase s.candidates s.depth, keyAllowed := false }
      let s := (s.emitAt c.position .key).openBlock c.column c.position .blockMapping
      some ((s.pass 1).emit .value)
  | none =>
      if s.depth = 0 && !s.keyAllowed then none
      else
        let s := s.openBlock s.column s.tokens.length .blockMapping
        some (({ s with keyAllowed := s.depth = 0 }.pass 1).emit .value)

/-- A scalar in quotes. -/
def quoted (s : Scanner) (double : Bool) : Option Scanner := do
  let s ← s.saveCandidate
  let (text, rest) ← readQuoted double (s.rest.drop 1)
  some (({ s with keyAllowed := false }.moveTo rest).emit (.scalar false text))

/-- A scalar without quotes. -/
def plain (s : Scanner) : Option Scanner := do
  let s ← s.saveCandidate
  let ((text, crossed), rest) :=
    plainFrom (0 < s.depth) (s.indent + 1).toNat (s.rest.length + 1) [] s.rest
  some (({ s with keyAllowed := crossed }.moveTo rest).emit (.scalar true (String.ofList text)))

/-- A block of lines. -/
def block (s : Scanner) (folded : Bool) : Option Scanner := do
  let s ← { s with keyAllowed := true }.dropCandidate
  let (text, rest) ← readBlock folded (s.indent + 1).toNat (s.rest.drop 1)
  some ((s.moveTo rest).emit (.scalar false text))

/-- Whether the character can be part of the name of a node. -/
def isNameChar (c : Char) : Bool := c.isAlphanum || c = '-' || c = '_'

/-- Marks that may follow the name of a node. -/
def nameEnds : List Char := ['?', ':', ',', ']', '}', '%', '@', Char.ofNat 0x60]

/-- The name of a node behind its mark. -/
def named (s : Scanner) (t : String → Token) : Option Scanner := do
  let s ← s.saveCandidate
  let name := (s.rest.drop 1).takeWhile isNameChar
  let rest := s.rest.drop (1 + name.length)
  if name.isEmpty || !(endsHere rest || rest.head?.any (· ∈ nameEnds)) then none
  else some (({ s with keyAllowed := false }.moveTo rest).emit (t (String.ofList name)))

/-- The mark at the start or end of a document. -/
def documentMark (s : Scanner) (t : Token) : Option Scanner := do
  let s ← (s.unwind (-1)).dropCandidate
  some (({ s with keyAllowed := false }.pass 3).emit t)

/-- Whether a scalar without quotes may start with these characters. -/
def startsPlain (s : Scanner) (c : Char) (rest : List Char) : Bool :=
  let marked := c ∈ leadingMarks || c = '-' || c = '?' || c = ':'
  if marked then !endsHere rest && (c = '-' || (s.depth = 0 && (c = '?' || c = ':')))
  else !isSeparator c

/-- Read the token at the front. -/
def token (s : Scanner) (c : Char) (rest : List Char) : Option Scanner :=
  if s.column = 0 && c = '%' then none
  else if s.column = 0 && atDocumentMark s.rest then
    s.documentMark (if c = '-' then .documentStart else .documentEnd)
  else if c = '[' then s.openFlow .flowList
  else if c = '{' then s.openFlow .flowMapping
  else if c = ']' then s.closeFlow .flowListEnd
  else if c = '}' then s.closeFlow .flowMappingEnd
  else if c = ',' then s.comma
  else if c = '-' && endsHere rest then s.item
  else if c = '?' && (0 < s.depth || endsHere rest) then s.key
  else if c = ':' && (0 < s.depth || endsHere rest) then s.value
  else if c = '*' then s.named .alias
  else if c = '&' then s.named .anchor
  else if c = '|' && s.depth = 0 then s.block false
  else if c = '>' && s.depth = 0 then s.block true
  else if c = '\'' then s.quoted false
  else if c = '"' then s.quoted true
  else if s.startsPlain c rest then s.plain
  else none

/-- Read all tokens. -/
def run : Nat → Scanner → Option (List Token)
  | 0, _ => none
  | fuel + 1, s => do
      let s ← (s.skip (s.rest.length + 1)).dropStale
      match s.rest with
      | [] =>
          let s ← (s.unwind (-1)).dropCandidate
          some s.tokens.reverse
      | c :: rest =>
          let s ← (s.unwind s.column).token c rest
          run fuel s

end Scanner

/-- Whether the character may stand in a document. -/
def isAllowed (c : Char) : Bool := c = '\t' || c = '\r' || c.toNat = 0xFEFF || isPlainChar c

/-- The tokens of a text. -/
def tokens (s : String) : Option (List Token) :=
  let cs := s.toList
  if !cs.all isAllowed then none
  else
    let cs := match cs with
      | c :: rest => if c.toNat = 0xFEFF then rest else cs
      | [] => []
    Scanner.run (2 * cs.length + 2) { rest := cs }

end RouteDoc.Yaml
