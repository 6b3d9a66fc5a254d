import RouteDoc.Source.Syntax
import RouteDoc.Source.Token
/-!
# RouteDoc.Source.Cursor

**Reading a list of tokens.** A `Parse` moves a cursor over the tokens of a source, or fails.

* Repetition is bounded by the number of tokens that are left (`Parse.many`), so it needs no measure.
* The grammar is recursive through a `Grammar`, the parses for the parts of a construct. A rule of the
  grammar is a function of one, and nesting is bounded by how often the rules are put into each other.
-/

namespace RouteDoc.Source

/-- A cursor over the tokens of a source. -/
structure Cursor where
  /-- The text of the source. -/
  source : List Char
  /-- The tokens that are left. -/
  rest : List Token
  /-- The number of characters up to the end of the last token. -/
  stop : Nat := 0

/-- A step of reading. -/
abbrev Parse := StateT Cursor Option

namespace Parse

variable {α : Type}

/-- The next token. -/
def peek? : Parse (Option Token) := return (← get).rest.head?

/-- The next token, which must be there. -/
def peek : Parse Token := do
  match ← peek? with
  | some t => return t
  | none => failure

/-- The words of the next two tokens, empty where there is none. -/
def words : Parse (String × String) := do
  match (← get).rest with
  | t :: u :: _ => return (t.word, u.word)
  | [t] => return (t.word, "")
  | [] => return ("", "")

/-- The word of the next token. -/
def word : Parse String := return (← words).1

/-- The kind of the token behind the next one. -/
def secondKind? : Parse (Option TokenKind) := return ((← get).rest[1]?).map Token.kind

/-- Go over the next token. -/
def next : Parse Token := do
  let c ← get
  match c.rest with
  | [] => failure
  | t :: rest =>
      set { c with rest, stop := t.stop }
      return t

/-- Go over the next token when it is the given word. -/
def skip (w : String) : Parse Bool := do
  if (← word) = w then
    let _ ← next
    return true
  else return false

/-- Go over the next token when it is one of some words. -/
def skipAny (ws : List String) : Parse Bool := do
  if (← word) ∈ ws then
    let _ ← next
    return true
  else return false

/-- Go over the given word. -/
def expect (w : String) : Parse Unit := do
  if ← skip w then return () else failure

/-- The number of characters before the next token. -/
def start : Parse Nat := return (← peek).start

/-- The text of the source from a place up to the end of the last token. -/
def textFrom (start : Nat) : Parse String := do
  let c ← get
  return String.ofList ((c.source.drop start).take (c.stop - start))

/-- The first comment before the next token, as a node. -/
def commentAhead : Parse (List Syntax) := do
  match (← peek?).map Token.comments with
  | some (_ :: _) => return [.other .comment []]
  | _ => return []

/-- Repeat a step until it says that nothing follows. -/
def repeatAtMost (step : Parse (Option α)) : Nat → Parse (List α)
  | 0 => failure
  | n + 1 => do
      match ← step with
      | none => return []
      | some a => return a :: (← repeatAtMost step n)

/-- Repeat a step, which passes a token each time, until it says that nothing follows. -/
def many (step : Parse (Option α)) : Parse (List α) := do
  repeatAtMost step ((← get).rest.length + 1)

/-- Improve a result by a step at most so many times. -/
def growAtMost (step : α → Parse (Option α)) : Nat → α → Parse α
  | 0, a => return a
  | n + 1, a => do
      match ← step a with
      | none => return a
      | some b => growAtMost step n b

/-- Improve a result by a step, which passes a token each time, until nothing follows. -/
def grow (step : α → Parse (Option α)) (a : α) : Parse α := do
  growAtMost step ((← get).rest.length + 1) a

/-- Repeat a step up to a closing mark, which is passed; separators between are passed too. -/
def manyUntil (close : String) (separators : List String) (step : Parse (List α)) :
    Parse (List α) := do
  let parts ← many do
    if ← skip close then return none
    else if ← skipAny separators then return some []
    else return some (← step)
  return parts.flatten

/-- Read a list of tokens by itself. -/
def within (tokens : List Token) (p : Parse α) : Parse α := do
  let outer ← get
  set { outer with rest := tokens }
  let a ← p
  set outer
  return a

end Parse

/-- The parses for the parts of a construct. -/
structure Grammar where
  /-- An expression whose operators bind at least so tightly. -/
  expression : Nat → Parse Syntax
  /-- A statement, or what is inside it. -/
  statement : Parse (List Syntax)
  /-- The members of a class, with the braces around them. -/
  members : Parse (List Syntax)

/-- The parses that always fail. -/
def Grammar.nothing : Grammar := ⟨fun _ => failure, failure, failure⟩

end RouteDoc.Source
