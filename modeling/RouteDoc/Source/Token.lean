import RouteDoc.Text.Digit
/-!
# RouteDoc.Source.Token

**PHP sources as lists of tokens.** Text outside the code is left out; a closing tag ends a statement
like a semicolon.

* A token knows where it stands, so that the text of whatever is made of several tokens can be cut out
  of the source again.
* Comments are no tokens: each token keeps those that stand before it, because some of them say
  something about a declaration and others take the place of an expression.
* A text in double quotes may hold code in braces; the tokens of that code belong to the token of the
  text.
-/

namespace RouteDoc.Source

/-- What a token is. -/
inductive TokenKind where
  /-- A name with its dollar sign. -/
  | variable
  /-- A name or a keyword. -/
  | name
  /-- A whole number. -/
  | integer
  /-- A number with a point or an exponent. -/
  | float
  /-- A text in single quotes. -/
  | string
  /-- A text in double quotes. -/
  | template
  /-- A command in backquotes. -/
  | command
  /-- A text of lines that may hold code. -/
  | heredoc
  /-- A text of lines. -/
  | nowdoc
  /-- A mark of one or more characters. -/
  | mark
deriving DecidableEq, Inhabited

/-- A token. -/
structure Token where
  /-- What it is. -/
  kind : TokenKind
  /-- How it is written. -/
  text : String
  /-- What the grammar looks at: a name in lower case, a mark as it is, and nothing for others. -/
  word : String := ""
  /-- The number of characters before it. -/
  start : Nat
  /-- The number of characters up to its end. -/
  stop : Nat
  /-- The comments between the token before it and this one. -/
  comments : List String := []
  /-- The code inside it. -/
  inner : List (List Token) := []
deriving Inhabited

/-- A place in a source. -/
structure Place where
  /-- The characters from there on. -/
  rest : List Char
  /-- The number of characters before it. -/
  offset : Nat := 0

/-- The place so many characters further on. -/
def Place.pass (p : Place) (n : Nat) : Place := ⟨p.rest.drop n, p.offset + n⟩

/-- The text of so many characters from a place on. -/
def Place.text (p : Place) (n : Nat) : String := String.ofList (p.rest.take n)

/-! ### Lengths of tokens -/

/-- Whether a character only separates tokens. -/
def isGap (c : Char) : Bool :=
  c.isWhitespace || c.toNat = 11 || c.toNat = 12 || c.toNat = 0xA0 || c.toNat = 0x200B ||
    c.toNat = 0x2060 || c.toNat = 0xFEFF

/-- Whether a name may start with the character. -/
def startsName (c : Char) : Bool := c.isAlpha || c = '_' || 0x80 ≤ c.toNat

/-- Whether the character may be part of a name. -/
def isNameChar (c : Char) : Bool := startsName c || c.isDigit

/-- The length of the name at the front, zero when there is none. -/
def nameLength : List Char → Nat
  | [] => 0
  | c :: rest => if startsName c then 1 + (rest.takeWhile isNameChar).length else 0

/-- The length of a comment that ends with its line. -/
def lineLength : List Char → Nat
  | [] => 0
  | '?' :: '>' :: _ => 0
  | c :: rest => if c = '\n' || c = '\r' then 0 else lineLength rest + 1

/-- The length of a comment up to its closing mark. -/
def commentBodyLength : List Char → Nat
  | [] => 0
  | '*' :: '/' :: _ => 2
  | _ :: rest => commentBodyLength rest + 1

/-- The length of the comment at the front, zero when there is none. -/
def commentLength : List Char → Nat
  | '/' :: '/' :: rest => lineLength rest + 2
  | '#' :: '[' :: _ => 0
  | '#' :: rest => lineLength rest + 1
  | '/' :: '*' :: rest => commentBodyLength rest + 2
  | _ => 0

/-- The length of a text in single quotes behind its opening quote. -/
def quotedLength : List Char → Nat
  | [] => 0
  | '\\' :: _ :: rest => quotedLength rest + 2
  | c :: rest => if c = '\'' then 1 else quotedLength rest + 1

/-- The length of a run of digits, which underscores may divide. -/
def digitsLength (isDigit : Char → Bool) (cs : List Char) : Nat :=
  (cs.takeWhile fun c => isDigit c || c = '_').length

/-- The length of the exponent at the front, zero when there is none. -/
def exponentLength : List Char → Nat
  | e :: sign :: rest =>
      if e = 'e' || e = 'E' then
        if sign = '+' || sign = '-' then
          let n := digitsLength Char.isDigit rest
          if n = 0 then 0 else n + 2
        else
          let n := digitsLength Char.isDigit (sign :: rest)
          if n = 0 then 0 else n + 1
      else 0
  | _ => 0

/-- The digits of a base with a letter for it. -/
def baseDigits? (c : Char) : Option (Char → Bool) :=
  if c = 'x' || c = 'X' then some fun d => (Text.hexValue? d).isSome
  else if c = 'b' || c = 'B' then some fun d => d = '0' || d = '1'
  else if c = 'o' || c = 'O' then some Char.isDigit
  else none

/-- The length of a decimal numeral, and whether it has a point or an exponent. -/
def decimalLength (cs : List Char) : Nat × Bool :=
  let whole := digitsLength Char.isDigit cs
  let rest := cs.drop whole
  let point := match rest with
    | '.' :: rest => digitsLength Char.isDigit rest + 1
    | _ => 0
  let exponent := exponentLength (rest.drop point)
  (whole + point + exponent, point + exponent ≠ 0)

/-- The length of the numeral at the front, and whether it has a point or an exponent. -/
def numeralLength : List Char → Nat × Bool
  | '0' :: c :: rest => match baseDigits? c with
      | some isDigit => (digitsLength isDigit rest + 2, false)
      | none => decimalLength ('0' :: c :: rest)
  | cs => decimalLength cs

/-- Marks of more than one character, longer ones first. -/
def longMarks : List (List Char) :=
  ["<=>", "**=", "...", "<<=", ">>=", "===", "!==", "??=", "?->", "++", "--", "->", "=>", "::", "==",
    "!=", "<>", "<=", ">=", "&&", "||", "??", "+=", "-=", "*=", "/=", ".=", "%=", "&=", "|=", "^=",
    "<<", ">>", "**", "|>", "#["].map String.toList

/-- The length of the mark at the front. -/
def markLength (cs : List Char) : Nat :=
  match longMarks.find? (·.isPrefixOf cs) with
  | some mark => mark.length
  | none => 1

/-! ### Texts of lines -/

/-- Whether a character stands between the words of one line. -/
def isTab (c : Char) : Bool := c = ' ' || c = '\t'

/-- The start of a text of lines behind its mark: the length up to the end of the line, whether
the text may hold code, and the name that ends it. -/
def linesStart? (cs : List Char) : Option (Nat × Bool × List Char) :=
  let gap := (cs.takeWhile isTab).length
  let rest := cs.drop gap
  let named (quotes : Nat) (code : Bool) (rest : List Char) : Option (Nat × Bool × List Char) :=
    let n := nameLength rest
    if n = 0 then none else some (gap + n + quotes, code, rest.take n)
  match rest with
  | '\'' :: rest => named 2 false rest
  | '"' :: rest => named 2 true rest
  | rest => named 0 true rest

/-- The length of the end of a text of lines, when it is here: a line break, and the name by
itself on the next line. -/
def linesEnd? (name : List Char) : List Char → Option Nat
  | '\n' :: rest =>
      let gap := (rest.takeWhile isTab).length
      let rest := rest.drop gap
      if name.isPrefixOf rest && !((rest.drop name.length).head?.any isNameChar) then
        some (1 + gap + name.length)
      else none
  | _ => none

/-- The length of a text without code up to its end. -/
def plainLength? (stop? : List Char → Option Nat) : List Char → Option Nat
  | [] => stop? []
  | c :: rest => match stop? (c :: rest) with
      | some n => some n
      | none => (plainLength? stop? rest).map (· + 1)

/-- The length of the end of a text in quotes, when it is here. -/
def quoteEnd? (quote : Char) : List Char → Option Nat
  | c :: _ => if c = quote then some 1 else none
  | [] => none

/-! ### Code and the text around it -/

/-- The quote around commands. -/
def backquote : Char := Char.ofNat 0x60

/-- The place where code starts: behind an opening tag, and whether that one prints what
follows. -/
def codeStart (offset : Nat) : List Char → Place × Bool
  | [] => (⟨[], offset⟩, false)
  | '<' :: '?' :: '=' :: rest => (⟨rest, offset + 3⟩, true)
  | '<' :: '?' :: p :: h :: q :: rest =>
      if [p, h, q].map Char.toLower = ['p', 'h', 'p'] then (⟨rest, offset + 5⟩, false)
      else codeStart (offset + 2) (p :: h :: q :: rest)
  | _ :: rest => codeStart (offset + 1) rest

/-- The token that is written by so many characters at a place. -/
def tokenAt (kind : TokenKind) (p : Place) (n : Nat) (comments : List String) : Token :=
  let text := p.text n
  let word := match kind with
    | .name => String.ofList ((p.rest.take n).map Char.toLower)
    | .mark => text
    | _ => ""
  { kind, text, word, start := p.offset, stop := p.offset + n, comments }

/-- The token of a text that starts at one place and ends at another. -/
def textToken (kind : TokenKind) (p q : Place) (comments : List String)
    (inner : List (List Token)) : Token :=
  { tokenAt kind p (q.offset - p.offset) comments with inner }

/-- The mark that stands for a closing tag. -/
def closingTag (p : Place) (comments : List String) : Token :=
  { kind := .mark, text := "?>", word := ";", start := p.offset, stop := p.offset + 2, comments }

/-- The word that an opening tag which prints stands for. -/
def openingTag (p : Place) : Token :=
  { kind := .name, text := "<?=", word := "echo", start := p.offset - 3, stop := p.offset }

/-- The number of braces that are open behind a token. -/
def depthBehind (t : Token) (depth : Nat) : Nat :=
  if t.word = "\x7b" then depth + 1 else if t.word = "\x7d" then depth - 1 else depth

mutual

/-- The tokens from a place on, up to the end of the source or, inside a text, up to the brace that
closes the code there. -/
def codeFrom : Nat → Option Nat → List String → Place → Option (List Token × Place)
  | 0, _, _, _ => none
  | fuel + 1, depth, comments, p => match p.rest with
      | [] => if depth.isNone then some ([], p) else none
      | c :: rest =>
          if isGap c then codeFrom fuel depth comments ⟨rest, p.offset + 1⟩
          else if commentLength p.rest ≠ 0 then
            let n := commentLength p.rest
            codeFrom fuel depth (comments ++ [p.text n]) (p.pass n)
          else if c = '}' && depth = some 0 then some ([], p.pass 1)
          else if c = '?' && rest.head? = some '>' then
            let (start, prints) := codeStart (p.offset + 2) (rest.drop 1)
            let opening := if prints then [openingTag start] else []
            (codeFrom fuel depth [] start).map fun (tokens, q) =>
              (closingTag p comments :: opening ++ tokens, q)
          else match token fuel comments c p with
            | none => none
            | some (t, q) => (codeFrom fuel (depth.map (depthBehind t)) [] q).map
                fun (tokens, q) => (t :: tokens, q)

/-- The token at a place where the given character stands. -/
def token : Nat → List String → Char → Place → Option (Token × Place)
  | 0, _, _, _ => none
  | fuel + 1, comments, c, p =>
      let plain (kind : TokenKind) (n : Nat) : Option (Token × Place) :=
        some (tokenAt kind p n comments, p.pass n)
      let quote := (p.rest.drop 1).head?
      let binary := c = 'b' || c = 'B'
      if binary && quote = some '\'' then plain .string (quotedLength (p.rest.drop 2) + 2)
      else if binary && quote = some '"' then
        (templateFrom fuel (quoteEnd? '"') [] (p.pass 2)).map fun (inner, q) =>
          (textToken .template p q comments inner, q)
      else if startsName c then plain .name (nameLength p.rest)
      else if c = '$' && nameLength (p.rest.drop 1) ≠ 0 then
        plain .variable (nameLength (p.rest.drop 1) + 1)
      else if c.isDigit || (c = '.' && quote.any Char.isDigit) then
        let (n, isFloat) := numeralLength p.rest
        plain (if isFloat then .float else .integer) n
      else if c = '\'' then plain .string (quotedLength (p.rest.drop 1) + 1)
      else if c = '"' || c = backquote then
        (templateFrom fuel (quoteEnd? c) [] (p.pass 1)).map fun (inner, q) =>
          (textToken (if c = '"' then .template else .command) p q comments inner, q)
      else if "<<<".toList.isPrefixOf p.rest then
        match linesStart? (p.rest.drop 3) with
        | none => plain .mark (markLength p.rest)
        | some (n, true, name) =>
            (templateFrom fuel (linesEnd? name) [] (p.pass (n + 3))).map fun (inner, q) =>
              (textToken .heredoc p q comments inner, q)
        | some (n, false, name) =>
            match plainLength? (linesEnd? name) (p.rest.drop (n + 3)) with
            | none => none
            | some length => plain .nowdoc (n + 3 + length)
      else plain .mark (markLength p.rest)

/-- The code inside a text from a place on, and the place behind the text. `stop?` tells where the
text ends; `done` is the code that was found before, the last part first. -/
def templateFrom : Nat → (List Char → Option Nat) → List (List Token) → Place →
    Option (List (List Token) × Place)
  | 0, _, _, _ => none
  | fuel + 1, stop?, done, p => match stop? p.rest with
      | some n => some (done.reverse, p.pass n)
      | none => match p.rest with
          | [] => none
          | '\\' :: '\n' :: _ => templateFrom fuel stop? done (p.pass 1)
          | '\\' :: _ :: _ => templateFrom fuel stop? done (p.pass 2)
          | '{' :: '$' :: _ => match codeFrom fuel (some 0) [] (p.pass 1) with
              | none => none
              | some (tokens, q) => templateFrom fuel stop? (tokens :: done) q
          | '$' :: '{' :: _ => match codeFrom fuel (some 0) [] (p.pass 2) with
              | none => none
              | some (tokens, q) => templateFrom fuel stop? (tokens :: done) q
          | _ :: _ => templateFrom fuel stop? done (p.pass 1)

end

/-- The tokens of a source; none when it breaks off inside a text. -/
def tokens? (source : List Char) : Option (List Token) :=
  let (start, prints) := codeStart 0 source
  let opening := if prints then [openingTag start] else []
  (codeFrom (3 * source.length + 3) none [] start).map fun (tokens, _) => opening ++ tokens

end RouteDoc.Source
