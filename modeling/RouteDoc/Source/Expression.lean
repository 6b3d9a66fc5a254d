import RouteDoc.Source.Cursor
/-!
# RouteDoc.Source.Expression

**Expressions of PHP sources.** An operator binds its operands with a power; `Grammar.infixes` goes on
while the next operator binds at least as tightly as is asked for.

* An assignment binds its left side whatever stands before it, so `!$a = f()` assigns first.
* What follows an operand directly (members, calls, subscripts) binds most tightly of all.
* A comment that stands where an expression is expected in parentheses, behind an arrow or behind
  dots takes its place.
-/

namespace RouteDoc.Source

open Parse

/-! ### Powers -/

/-- The power of an assignment. -/
def assignmentPower : Nat := 4

/-- The power of a choice. -/
def choicePower : Nat := 5

/-- The power of the operator for missing values. -/
def coalescePower : Nat := 6

/-- The power of an operand behind a sign. -/
def prefixPower : Nat := 20

/-- The power of an operand without operators. -/
def operandPower : Nat := 22

/-- The power of an operator between two values that has no meaning here. -/
def binaryPower? (w : String) : Option Nat :=
  if w = "or" then some 1
  else if w = "xor" then some 2
  else if w = "and" then some 3
  else if w = "||" then some 7
  else if w = "&&" then some 8
  else if w = "|" then some 9
  else if w = "^" then some 10
  else if w = "&" then some 11
  else if w ∈ ["==", "!=", "<>", "===", "!==", "<=>"] then some 12
  else if w ∈ ["<", ">", "<=", ">="] then some 13
  else if w = "." || w = "|>" then some 14
  else if w = "<<" || w = ">>" then some 15
  else if w = "+" || w = "-" then some 16
  else if w = "*" || w = "/" || w = "%" then some 17
  else if w = "instanceof" then some 19
  else if w = "**" then some 21
  else none

/-- Operators that assign after computing. -/
def augmentedMarks : List String :=
  ["+=", "-=", "*=", "/=", ".=", "%=", "**=", "&=", "|=", "^=", "<<=", ">>=", "??="]

/-- Whether a value can be assigned to an expression. -/
def isAssignable : Syntax → Bool
  | .variable _ | .property .. | .array _ => true
  | .other .subscript _ | .other .classProperty _ | .other .dynamicVariable _ | .other .list _ => true
  | _ => false

/-- Types to which a value can be converted by their name in parentheses. -/
def castNames : List String :=
  ["array", "binary", "bool", "boolean", "double", "float", "int", "integer", "object", "real",
    "string", "unset", "void"]

/-- Words that introduce an expression behind them, with the form and the power. -/
def wordPrefix? (w : String) : Option (Form × Nat) :=
  if w = "clone" then some (.clone, operandPower)
  else if w = "print" then some (.print, assignmentPower)
  else if w = "throw" then some (.throw, 0)
  else if w = "include" then some (.include, assignmentPower)
  else if w = "include_once" then some (.includeOnce, assignmentPower)
  else if w = "require" then some (.require, assignmentPower)
  else if w = "require_once" then some (.requireOnce, assignmentPower)
  else none

/-- Marks that introduce an expression behind them, with the form and the power. -/
def markPrefix? (w : String) : Option (Form × Nat) :=
  if w ∈ ["-", "+", "!", "~"] then some (.unary, prefixPower)
  else if w = "@" then some (.suppression, prefixPower)
  else if w = "++" || w = "--" then some (.update, operandPower)
  else none

/-- Words behind which a yield has no value. -/
def yieldEnds : List String := [";", ")", ",", "]", "\x7d"]

namespace Grammar

variable (g : Grammar)

/-! ### Arguments, items and types -/

/-- Attributes before a declaration or a function. -/
def attributes : Parse (List Syntax) := do
  let groups ← many do
    if ← skip "#[" then return some (← manyUntil "]" [","] do return [← g.expression 0])
    else return none
  return groups.flatten

/-- One argument of a call; the dots of a call that is not made count as none. -/
def argument : Parse (List Syntax) := do
  if ← skip "..." then
    if (← word) = ")" then return []
    else return [.other .unpacking [← g.expression 0]]
  else
    let (_, second) ← words
    let kind := (← peek).kind
    if kind = .name && second = ":" then
      let _ ← next
      let _ ← next
    return [← g.expression 0]

/-- Arguments behind the opening parenthesis. -/
def arguments : Parse (List Syntax) := manyUntil ")" [","] g.argument

/-- Arguments with their parentheses, if there are any. -/
def arguments? : Parse (Option (List Syntax)) := do
  if ← skip "(" then return some (← g.arguments) else return none

/-- The value of an item, which may be a reference. -/
def itemValue : Parse Syntax := do
  if ← skip "&" then return .other .reference [← g.expression operandPower]
  else g.expression 0

/-- One item of an array. -/
def item : Parse (List Syntax) := do
  if ← skip "..." then
    let comment ← commentAhead
    return [.item [] (comment ++ [← g.expression 0]) true]
  else
    let first ← g.itemValue
    if ← skip "=>" then
      let comment ← commentAhead
      return [.item [first] (comment ++ [← g.itemValue]) false]
    else return [.item [] [first] false]

/-- The items of an array up to its closing mark. -/
def items (close : String) : Parse (List Syntax) := manyUntil close [","] g.item

/-- The names of types that are no classes. -/
def plainTypes : List String :=
  ["array", "callable", "iterable", "bool", "float", "int", "string", "void", "mixed", "false",
    "null", "true", "never"]

/-- The tokens of a type. -/
def typeTokens : Parse (List Token) := many do
  let some t ← peek? | return none
  let (w, second) ← words
  let kind ← secondKind?
  if t.kind = .name || w ∈ ["\\", "?", "|", "(", ")"] then return some (← next)
  else if w = "&" && kind ≠ some .variable && second ≠ "..." && second ≠ "&" then
    return some (← next)
  else return none

/-- The class that a type names last; none for a choice of types. -/
def typeClass (tokens : List Token) : Option String :=
  let has (w : String) : Bool := tokens.any (·.word = w)
  if has "|" && !has "(" then none
  else (tokens.filter fun t => t.kind = .name && t.word ∉ plainTypes).getLast?.map Token.text

/-- Words before a declaration. -/
def modifiers : List String :=
  ["public", "protected", "private", "static", "abstract", "final", "readonly", "var"]

/-- Go over what stands in braces. -/
def skipBraces : Parse Unit := do
  if ← skip "\x7b" then
    let _ ← grow (fun depth => do
      if depth = 0 then return none
      else
        let t ← next
        return some (depthBehind t depth)) 1

/-- One parameter, with its default value. -/
def parameter : Parse (Parameter × List Syntax) := do
  let attributes ← g.attributes
  let promotions ← many do
    if (← word) ∈ modifiers then
      let _ ← next
      return some ()
    else return none
  let type ← typeTokens
  let _ ← skip "&"
  let isVariadic ← skip "..."
  let _ ← next
  let value ← if ← skip "=" then pure [← g.expression 0] else pure []
  skipBraces
  return ({ isPlain := promotions.isEmpty && !isVariadic, className := typeClass type },
    attributes ++ value)

/-- Parameters with their parentheses. -/
def parameters : Parse (List Parameter × List Syntax) := do
  expect "("
  let ps ← manyUntil ")" [","] do return [← g.parameter]
  return (ps.map Prod.fst, ps.flatMap Prod.snd)

/-- The type of a result, if it is written. -/
def resultType : Parse Unit := do
  if ← skip ":" then
    let _ ← typeTokens

/-- Statements with the braces around them. -/
def block : Parse (List Syntax) := do
  expect "\x7b"
  manyUntil "\x7d" [] g.statement

/-! ### Functions, matches and new objects -/

/-- A short function behind its keyword. -/
def arrowFunction : Parse Syntax := do
  let _ ← skip "&"
  let (_, defaults) ← g.parameters
  resultType
  expect "=>"
  return .other .arrowFunction (defaults ++ [← g.expression assignmentPower])

/-- A function without a name behind its keyword. -/
def anonymousFunction : Parse Syntax := do
  let _ ← skip "&"
  let (_, defaults) ← g.parameters
  if ← skip "use" then
    expect "("
    let _ ← manyUntil ")" [",", "&"] do return [← next]
  resultType
  return .other .anonymousFunction (defaults ++ (← g.block))

/-- A match behind its keyword. -/
def matchExpression : Parse Syntax := do
  expect "("
  let subject ← manyUntil ")" [] do return [← g.expression 0]
  expect "\x7b"
  let arms ← manyUntil "\x7d" [",", "=>"] do
    let (first, second) ← words
    if first = "default" && (second = "=>" || second = ",") then
      let _ ← next
      return []
    else return [← g.expression 0]
  return .other .match (subject ++ arms)

/-- The class of a new object that is computed: a variable with what follows it. -/
def computedClass : Parse Syntax := do
  let t ← next
  let base ←
    if t.word = "(" then pure (.group (← manyUntil ")" [] do return [← g.expression 0]))
    else pure (.variable t.text)
  grow (fun base => do
    if ← skipAny ["->", "?->", "::"] then
      let t ← next
      return some (.property false base t.text [])
    else if ← skip "[" then
      return some (.other .subscript (base :: (← manyUntil "]" [] do return [← g.expression 0])))
    else return none) base

/-- The text of a name of several parts. -/
def qualifiedName : Parse String := do
  let first ← start
  let _ ← skip "\\"
  let _ ← next
  let _ ← many do
    if ← skip "\\" then return some (← next) else return none
  textFrom first

/-- The names behind a word such as `extends`. -/
def namesBehind (w : String) : Parse (List String) := do
  if ← skip w then
    let first ← qualifiedName
    let others ← many do
      if ← skip "," then return some (← qualifiedName) else return none
    return first :: others
  else return []

/-- A new object behind its keyword. -/
def newObject : Parse Syntax := do
  let attributes ← g.attributes
  let _ ← many do
    if (← words) = ("readonly", "class") then return some (← next) else return none
  let t ← peek
  if t.word = "class" then
    let _ ← next
    let arguments ← g.arguments?
    let _ ← namesBehind "extends"
    let _ ← namesBehind "implements"
    return .create "" (attributes ++ arguments.getD [] ++ (← g.members)) []
  else if t.kind = .name || t.word = "\\" then
    let name ← qualifiedName
    return .create name [] ((← g.arguments?).getD [])
  else
    let computed ← g.computedClass
    return .create "" [computed] ((← g.arguments?).getD [])

/-! ### Operands -/

/-- The name of a member: its text, and the code that computes it. -/
def memberName : Parse (String × List Syntax) := do
  if ← skip "\x7b" then
    let first ← start
    let value ← g.expression 0
    let text ← textFrom first
    expect "\x7d"
    return (text, [value])
  else if ← skip "$" then
    let dollar ← start
    let value ← g.expression operandPower
    return ("$" ++ (← textFrom dollar), [value])
  else
    let t ← next
    return (t.text, if t.kind = .variable then [.variable t.text] else [])

/-- A member behind its arrow. -/
def memberOf (target : Syntax) (nullsafe : Bool) : Parse Syntax := do
  let (name, inner) ← g.memberName
  match ← g.arguments? with
  | some arguments => return .call nullsafe target name inner arguments
  | none => return .property nullsafe target name inner

/-- A class member behind its colons. -/
def classMemberOf (target : Syntax) (scope : String) (comment : Option String) : Parse Syntax := do
  let comment := comment.or ((← peek).comments.head?)
  let isVariable := (← peek).kind = .variable || (← word) = "$"
  let (name, inner) ← g.memberName
  match ← g.arguments? with
  | some arguments => return .staticCall scope name (target :: inner) arguments
  | none =>
      if isVariable then return .other .classProperty (target :: inner)
      else return .constant scope (comment.getD name) (target :: inner)

/-- One thing that directly follows an operand, which starts at the given place. -/
def following? (first : Nat) (target : Syntax) : Parse (Option Syntax) := do
  let text ← textFrom first
  let comment := (← peek?).bind (·.comments.head?)
  if ← skip "->" then return some (← g.memberOf target false)
  else if ← skip "?->" then return some (← g.memberOf target true)
  else if ← skip "::" then return some (← g.classMemberOf target text comment)
  else if ← skip "[" then
    return some (.other .subscript (target :: (← manyUntil "]" [] do return [← g.expression 0])))
  else if ← skip "(" then return some (.functionCall text [target] (← g.arguments))
  else if ← skipAny ["++", "--"] then return some (.other .update [target])
  else return none

/-- The code inside a text. -/
def codeInside (t : Token) : Parse (List Syntax) :=
  t.inner.mapM fun tokens => within tokens (g.expression 0)

/-- A name, or a constant that has a node of its own. -/
def nameOperand : Parse Syntax := do
  let text ← qualifiedName
  let w := String.ofList (text.toList.map Char.toLower)
  if w = "true" then return .boolean true
  else if w = "false" then return .boolean false
  else if w = "null" then return .null
  else if '\\' ∈ text.toList then return .other .qualifiedName []
  else return .other .name []

/-- An operand that is introduced by a mark. -/
def markOperand (w : String) : Parse Syntax := do
  if w = "\\" then nameOperand
  else
    let _ ← next
    if w = "(" then
      let comment ← commentAhead
      return .group (comment ++ (← manyUntil ")" [] do return [← g.expression 0]))
    else if w = "[" then return .array (← g.items "]")
    else if w = "$" then
      if ← skip "\x7b" then
        return .other .dynamicVariable (← manyUntil "\x7d" [] do return [← g.expression 0])
      else return .other .dynamicVariable [← g.expression operandPower]
    else failure

/-- An operand without what follows it. -/
def operand : Parse Syntax := do
  let t ← peek
  let (w, second) ← words
  match t.kind with
  | .variable => let _ ← next; return .variable t.text
  | .integer => let _ ← next; return .integer t.text
  | .float => let _ ← next; return .float t.text
  | .string => let _ ← next; return .string t.text []
  | .template => let _ ← next; return .string t.text (← g.codeInside t)
  | .command => let _ ← next; return .other .command (← g.codeInside t)
  | .heredoc => let _ ← next; return .other .heredoc (← g.codeInside t)
  | .nowdoc => let _ ← next; return .other .nowdoc []
  | .mark => g.markOperand w
  | .name =>
      if w = "new" then let _ ← next; g.newObject
      else if w = "array" && second = "(" then
        let _ ← next
        let _ ← next
        return .array (← g.items ")")
      else if w = "list" && second = "(" then
        let _ ← next
        let _ ← next
        return .other .list (← g.items ")")
      else nameOperand

/-- An operand with everything that directly follows it. -/
def operandWithRest : Parse Syntax := do
  let first ← start
  grow (g.following? first) (← g.operand)

/-- A function without a name, when one starts here. -/
def function? : Parse (Option Syntax) := do
  let (first, second) ← words
  if first = "static" && (second = "fn" || second = "function") then
    let _ ← next
  let (first, second) ← words
  let starts := second = "(" || second = "&"
  if first = "fn" && starts then
    let _ ← next
    return some (← g.arrowFunction)
  else if first = "function" && starts then
    let _ ← next
    return some (← g.anonymousFunction)
  else return none

/-- A yield behind its keyword. -/
def yieldExpression : Parse Syntax := do
  let _ ← skip "from"
  if (← word) ∈ yieldEnds then return .other .yield []
  else
    let first ← g.expression assignmentPower
    if ← skip "=>" then return .other .yield [first, ← g.expression assignmentPower]
    else return .other .yield [first]

/-- Whether a conversion to a type starts here. -/
def atCast : Parse Bool := do
  match (← get).rest with
  | open_ :: type :: close :: _ =>
      return open_.word = "(" && type.kind = .name && type.word ∈ castNames && close.word = ")"
  | _ => return false

/-- An expression that starts with a sign or a keyword, or an operand. -/
def prefixed : Parse Syntax := do
  let (w, second) ← words
  if w = "#[" then
    let attributes ← g.attributes
    match ← g.expression operandPower with
    | .other form inner => return .other form (attributes ++ inner)
    | function => return function
  else if ← atCast then
    let _ ← next
    let _ ← next
    let _ ← next
    return .other .cast [← g.expression prefixPower]
  else if let some (form, power) := markPrefix? w then
    let _ ← next
    return .other form [← g.expression power]
  else if let some function ← g.function? then return function
  else if w = "match" && second = "(" then
    let _ ← next
    g.matchExpression
  else if w = "yield" then
    let _ ← next
    g.yieldExpression
  else if let some (form, power) := wordPrefix? w then
    let _ ← next
    return .other form [← g.expression power]
  else g.operandWithRest

/-! ### Operators between operands -/

/-- A choice behind its question mark. -/
def choice (condition : Syntax) : Parse Syntax := do
  if ← skip ":" then return .shortConditional condition (← g.expression (choicePower + 1))
  else
    let ifTrue ← g.expression 0
    expect ":"
    return .conditional condition ifTrue (← g.expression (choicePower + 1))

/-- Go on with an operator that binds at least so tightly, when one follows. -/
def infix? (power : Nat) (left : Syntax) : Parse (Option Syntax) := do
  let w ← word
  if isAssignable left && w = "=" then
    let _ ← next
    let form := if ← skip "&" then .referenceAssignment else .assignment
    return some (.other form [left, ← g.expression assignmentPower])
  else if isAssignable left && w ∈ augmentedMarks then
    let _ ← next
    return some (.other .augmentedAssignment [left, ← g.expression assignmentPower])
  else if w = "?" && power ≤ choicePower then
    let _ ← next
    return some (← g.choice left)
  else if w = "??" && power ≤ coalescePower then
    let _ ← next
    return some (.coalesce left (← g.expression coalescePower))
  else match binaryPower? w with
    | none => return none
    | some own =>
        if power ≤ own then
          let _ ← next
          let right ← g.expression (if w = "**" then own else own + 1)
          return some (.other .binary [left, right])
        else return none

/-- An expression whose operators bind at least so tightly. -/
def expressionRule (power : Nat) : Parse Syntax := do
  grow (g.infix? power) (← g.prefixed)

end Grammar

end RouteDoc.Source
