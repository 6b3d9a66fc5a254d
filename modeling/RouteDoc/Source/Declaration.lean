import RouteDoc.Source.Expression
/-!
# RouteDoc.Source.Declaration

**Statements and declarations of PHP sources.** Control structures are flattened: their conditions and
branches follow each other in the order of the source.

* `Grammar.statementRule` reads one statement, `Grammar.memberRule` one member of a class.
* What cannot be read as a statement is passed over token by token, so a source always has a tree.
* `parse` puts the rules into each other often enough for the nesting of any source.
-/

namespace RouteDoc.Source

open Parse

/-- Words that are followed by something in parentheses. -/
def conditionWords : List String :=
  ["if", "elseif", "while", "for", "foreach", "switch", "declare", "catch"]

/-- Words that stand before a statement without a condition. -/
def branchWords : List String :=
  ["else", "do", "try", "finally", "endif", "endwhile", "endfor", "endforeach", "endswitch",
    "enddeclare"]

/-- What may stand between expressions in the parentheses of a control structure. -/
def conditionMarks : List String := [";", ",", "=>", "=", "&", "as", "|"]

/-- Whether a comment documents what follows it. -/
def isDocumentation (comment : String) : Bool := "/**".toList.isPrefixOf comment.toList

/-- The documentation before a declaration that starts with the token. -/
def documentationOf (first : Token) : Option String :=
  first.comments.getLast?.filter isDocumentation

/-- Words before a class. -/
def classModifiers : List String := ["abstract", "final", "readonly"]

/-- The tokens between two of them, as lists. -/
def splitAtCommas (tokens : List Token) : List (List Token) :=
  (tokens.splitOnP (·.word = ",")).filter fun part => !part.isEmpty

/-- The text of the source from the first of some tokens to the last one. -/
def textOf (tokens : List Token) (source : List Char) : String :=
  match tokens.head?, tokens.getLast? with
  | some first, some last =>
      String.ofList ((source.drop first.start).take (last.stop - first.start))
  | _, _ => ""

/-- What imported names are below: the tokens before the brace of a group, without a kind and without
the separators at the ends. -/
def groupTokens (tokens : List Token) : List Token :=
  let isBar (t : Token) : Bool := t.word = "\\"
  let names := match tokens with
    | kind :: rest => if kind.word = "function" || kind.word = "const" then rest else tokens
    | [] => []
  ((names.dropWhile isBar).reverse.dropWhile isBar).reverse

namespace Grammar

variable (g : Grammar)

/-! ### Imports and namespaces -/

/-- Tokens up to a mark, which is passed. -/
def tokensUntil (close : String) : Parse (List Token) :=
  manyUntil close [] do return [← next]

/-- Imported names behind the keyword. -/
def imports : Parse (List Syntax) := do
  let tokens ← tokensUntil ";"
  let source := (← get).source
  let texts (tokens : List Token) : List String :=
    (splitAtCommas tokens).map fun part => textOf part source
  match tokens.span (·.word ≠ "\x7b") with
  | (all, []) => return [.useDeclaration "" (texts all)]
  | (group, _ :: rest) =>
      return [.useDeclaration (textOf (groupTokens group) source)
        (texts (rest.takeWhile (·.word ≠ "\x7d")))]

/-- A namespace behind its keyword; its statements follow. -/
def namespaceDeclaration : Parse (List Syntax) := do
  let name ← if (← word) = "\x7b" then pure "" else qualifiedName
  return [.namespaceDeclaration name]

/-! ### Members of classes -/

/-- Values that are assigned to names, up to the semicolon. -/
def assignedValues : Parse (List Syntax) := do
  let parts ← many do
    if ← skip ";" then return none
    else if ← skip "=" then return some [← g.expression 0]
    else if (← word) = "\x7b" then
      skipBraces
      return none
    else
      let _ ← next
      return some []
  return parts.flatten

/-- A method behind its keyword. -/
def method (attributes : List Syntax) : Parse (List Syntax) := do
  let _ ← skip "&"
  let name ← next
  let (parameters, defaults) ← g.parameters
  resultType
  let body ← if ← skip ";" then pure [] else g.block
  return [.method name.text parameters (attributes ++ defaults ++ body)]

/-- A case of an enumeration behind its keyword. -/
def enumCase : Parse (List Syntax) := do
  let name ← next
  let value ← if ← skip "=" then pure [← g.expression 0] else pure []
  expect ";"
  return [.enumCase name.text value]

/-- One member of a class. -/
def memberRule : Parse (List Syntax) := do
  let attributes ← g.attributes
  let _ ← many do
    if (← word) ∈ modifiers then return some (← next) else return none
  if ← skip "function" then g.method attributes
  else if ← skip "case" then g.enumCase
  else return attributes ++ (← g.assignedValues)

/-- The members of a class with the braces around them. -/
def membersRule : Parse (List Syntax) := do
  expect "\x7b"
  manyUntil "\x7d" [";"] g.memberRule

/-- A class behind its keyword. -/
def classDeclaration (first : Token) (attributes : List Syntax) : Parse (List Syntax) := do
  let name ← next
  let parents ← namesBehind "extends"
  let _ ← namesBehind "implements"
  let members ← g.members
  let text ← textFrom first.start
  return [.classDeclaration name.text parents.head? (documentationOf first) text
    (attributes ++ members)]

/-- An enumeration behind its keyword. -/
def enumDeclaration (first : Token) (attributes : List Syntax) : Parse (List Syntax) := do
  let name ← next
  resultType
  let _ ← namesBehind "implements"
  let members ← g.members
  return [.enumDeclaration name.text (← textFrom first.start) (attributes ++ members)]

/-- An interface or a set of members behind its keyword. -/
def otherDeclaration (attributes : List Syntax) : Parse (List Syntax) := do
  let _ ← next
  let _ ← namesBehind "extends"
  return [.other .declaration (attributes ++ (← g.members))]

/-- A function with a name behind its keyword. -/
def functionDeclaration (attributes : List Syntax) : Parse (List Syntax) := do
  let _ ← skip "&"
  let _ ← next
  let (_, defaults) ← g.parameters
  resultType
  return [.other .declaration (attributes ++ defaults ++ (← g.block))]

/-! ### Statements -/

/-- A return behind its keyword. -/
def returned : Parse (List Syntax) := do
  let comment ← commentAhead
  if ← skip ";" then return [.returned comment]
  else
    let value ← g.expression 0
    let _ ← skip ";"
    return [.returned (comment ++ [value])]

/-- What stands in the parentheses of a control structure, and a colon behind them. -/
def condition : Parse (List Syntax) := do
  expect "("
  let parts ← manyUntil ")" conditionMarks do return [← g.expression 0]
  let _ ← skip ":"
  return parts

/-- Expressions up to the semicolon. -/
def expressions : Parse (List Syntax) := manyUntil ";" [","] do return [← g.expression 0]

/-- Whether a declaration of a class, interface, enumeration or function starts with these words. -/
def startsDeclaration (first second : String) (kind : Option TokenKind) : Bool :=
  first ∈ ["class", "interface", "trait"] && kind = some .name
    || first = "enum" && kind = some .name && second ≠ "extends" && second ≠ "implements"
    || first = "function" && (kind = some .name || second = "&") && second ≠ "("

/-- A declaration, if one starts here; `first` is its first token. -/
def declaration? (first : Token) (attributes : List Syntax) : Parse (Option (List Syntax)) := do
  let (w, second) ← words
  if !startsDeclaration w second (← secondKind?) then return none
  else if w = "function" && second = "&" && ((← get).rest[2]?).map Token.kind ≠ some .name then
    return none
  else
    let _ ← next
    if w = "class" then return some (← g.classDeclaration first attributes)
    else if w = "enum" then return some (← g.enumDeclaration first attributes)
    else if w = "function" then return some (← g.functionDeclaration attributes)
    else return some (← g.otherDeclaration attributes)

/-- A statement that starts with a keyword, or expressions. -/
def plainStatement : Parse (List Syntax) := do
  let (w, second) ← words
  let kind ← secondKind?
  if w = "\x7b" then g.block
  else if w = ";" then let _ ← next; return []
  else if w = "return" then let _ ← next; g.returned
  else if w = "namespace" && second ≠ "\\" then let _ ← next; namespaceDeclaration
  else if w = "use" then let _ ← next; imports
  else if w ∈ conditionWords && second = "(" then let _ ← next; g.condition
  else if w ∈ branchWords || w = "default" then
    let _ ← next
    let _ ← skip ":"
    return []
  else if w = "case" then
    let _ ← next
    let value ← g.expression 0
    let _ ← skipAny [":", ";"]
    return [value]
  else if w = "echo" || w = "global" then let _ ← next; g.expressions
  else if w = "static" && kind = some .variable then let _ ← next; g.expressions
  else if w = "const" then let _ ← next; g.assignedValues
  else if w ∈ ["break", "continue", "goto"] then
    let _ ← tokensUntil ";"
    return []
  else if second = ":" && kind = some .mark && (← peek).kind = .name then
    let _ ← next
    let _ ← next
    return []
  else g.expressions

/-- A statement with the attributes and modifiers before it. -/
def statementRule : Parse (List Syntax) := do
  let first ← peek
  let attributes ← g.attributes
  let _ ← many do
    let (w, second) ← words
    if w ∈ classModifiers && (second = "class" || second ∈ classModifiers) then
      return some (← next)
    else return none
  match ← g.declaration? first attributes with
  | some nodes => return nodes
  | none => return attributes ++ (← g.plainStatement)

/-- A statement, or nothing for a token that starts none. -/
def statementOrNothing : Parse (List Syntax) :=
  g.statementRule <|> do
    let _ ← next
    return []

/-- The parses that put the given ones into the rules. -/
def wrap : Grammar := ⟨g.expressionRule, g.statementOrNothing, g.membersRule⟩

/-- The parses for sources that are nested at most so deeply. -/
def ofDepth : Nat → Grammar
  | 0 => nothing
  | n + 1 => (ofDepth n).wrap

end Grammar

/-- The statements of a source. -/
def parse (source : List Char) : List Syntax :=
  match tokens? source with
  | none => []
  | some tokens =>
      let g := Grammar.ofDepth (2 * tokens.length + 2)
      let statements := many do
        match ← peek? with
        | none => return none
        | some _ => return some (← g.statement)
      match statements.run { source, rest := tokens } with
      | some (parts, _) => parts.flatten
      | none => []

end RouteDoc.Source
