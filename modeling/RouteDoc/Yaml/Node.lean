import RouteDoc.Yaml.Token
/-!
# RouteDoc.Yaml.Node

**The tree of a YAML document.** `Node.ofTokens?` puts the tokens of a text together; a text that
holds no document gives an empty scalar, one that holds several gives nothing.

A node may be named and used again behind its end; the same name must not be given twice.
-/

namespace RouteDoc.Yaml

/-- A node of a document. -/
inductive Node where
  /-- A scalar, and whether it stands without quotes. -/
  | scalar (plain : Bool) (text : String)
  /-- A list. -/
  | list (items : List Node)
  /-- A mapping, with its keys in the order in which they are written. -/
  | mapping (entries : List (Node × Node))
deriving Inhabited

/-- What a parser works on. -/
structure Progress where
  /-- The tokens that are left. -/
  tokens : List Token
  /-- The nodes that have names. -/
  named : Table String Node := []

/-- A parser of tokens. -/
abbrev Parser := StateT Progress Option

namespace Parser

/-- The next token. -/
def peek : Parser (Option Token) := return (← get).tokens.head?

/-- Go on to the next token. -/
def advance : Parser Unit := modify fun p => { p with tokens := p.tokens.drop 1 }

/-- Whether one of some tokens comes next. -/
def nextIs (ts : List Token) : Parser Bool := return (← peek).any (· ∈ ts)

/-- Go on over a token when it comes next. -/
def accept (t : Token) : Parser Bool := do
  if ← nextIs [t] then
    advance
    return true
  else return false

/-- A scalar that is not written. -/
def absent : Node := .scalar true ""

/-- The name of a node, when one is given. -/
def name? : Parser (Option String) := do
  match ← peek with
  | some (.anchor name) =>
      advance
      if Table.has (← get).named name then failure else return some name
  | _ => return none

/-- Give a node a name. -/
def register (name : Option String) (n : Node) : Parser Node := do
  match name with
  | some name => modify fun p => { p with named := Table.insert p.named name n }
  | none => pure ()
  return n

/-- The forms that a node may have. -/
inductive Context where
  /-- Inside brackets. -/
  | flow
  /-- In lines. -/
  | block
  /-- Behind a key, where the items of a list need no indentation. -/
  | value
deriving DecidableEq

/-- Tokens before which a part of a mapping is not written. -/
def mappingEnds : List Token := [.key, .value, .blockEnd]

mutual

/-- A node. -/
def node (context : Context) : Nat → Parser Node
  | 0 => failure
  | fuel + 1 => do
      match ← peek with
      | some (.alias name) =>
          advance
          match Table.get? (← get).named name with
          | some n => return n
          | none => failure
      | _ =>
          let name ← name?
          let n ← content context name.isSome fuel
          register name n

/-- A node without its name. -/
def content (context : Context) (isNamed : Bool) : Nat → Parser Node
  | 0 => failure
  | fuel + 1 => do
      match ← peek with
      | some (.scalar plain text) =>
          advance
          return .scalar plain text
      | some .flowList =>
          advance
          return .list (← flowItems true fuel)
      | some .flowMapping =>
          advance
          return .mapping (← flowEntries true fuel)
      | some .item => if context = .value then return .list (← looseItems fuel) else other
      | some .blockList =>
          if context = .flow then other
          else
            advance
            return .list (← blockItems fuel)
      | some .blockMapping =>
          if context = .flow then other
          else
            advance
            return .mapping (← blockEntries fuel)
      | _ => other
where
  /-- A name may stand for itself. -/
  other : Parser Node := if isNamed then return absent else failure

/-- The items of a list of lines, up to its end. -/
def blockItems : Nat → Parser (List Node)
  | 0 => failure
  | fuel + 1 => do
      if ← accept .item then
        let n ← if ← nextIs [.item, .blockEnd] then pure absent else node .block fuel
        return n :: (← blockItems fuel)
      else if ← accept .blockEnd then return []
      else failure

/-- The items of a list that is not indented. -/
def looseItems : Nat → Parser (List Node)
  | 0 => failure
  | fuel + 1 => do
      if ← accept .item then
        let n ← if ← nextIs (.item :: mappingEnds) then pure absent else node .block fuel
        return n :: (← looseItems fuel)
      else return []

/-- The entries of a mapping of lines, up to its end. -/
def blockEntries : Nat → Parser (List (Node × Node))
  | 0 => failure
  | fuel + 1 => do
      if ← accept .key then
        let k ← if ← nextIs mappingEnds then pure absent else node .value fuel
        let v ← if ← accept .value then
            if ← nextIs mappingEnds then pure absent else node .value fuel
          else pure absent
        return (k, v) :: (← blockEntries fuel)
      else if ← accept .blockEnd then return []
      else failure

/-- The items of a list in brackets, up to its end. -/
def flowItems (first : Bool) : Nat → Parser (List Node)
  | 0 => failure
  | fuel + 1 => do
      if ← accept .flowListEnd then return []
      else
        unless first do
          unless ← accept .comma do failure
        if ← accept .key then
          let e ← flowPair [.value, .comma, .flowListEnd] fuel
          return .mapping [e] :: (← flowItems false fuel)
        else if ← accept .flowListEnd then return []
        else
          let n ← node .flow fuel
          return n :: (← flowItems false fuel)

/-- The entries of a mapping in braces, up to its end. -/
def flowEntries (first : Bool) : Nat → Parser (List (Node × Node))
  | 0 => failure
  | fuel + 1 => do
      if ← accept .flowMappingEnd then return []
      else
        unless first do
          unless ← accept .comma do failure
        if ← accept .key then
          let e ← flowPair [.value, .comma, .flowMappingEnd] fuel
          return e :: (← flowEntries false fuel)
        else if ← accept .flowMappingEnd then return []
        else
          let n ← node .flow fuel
          return (n, absent) :: (← flowEntries false fuel)

/-- A key with its value inside brackets, either of which may be missing before some tokens. -/
def flowPair (ends : List Token) : Nat → Parser (Node × Node)
  | 0 => failure
  | fuel + 1 => do
      let k ← if ← nextIs ends then pure absent else node .flow fuel
      let v ← if ← accept .value then
          if ← nextIs (ends.drop 1) then pure absent else node .flow fuel
        else pure absent
      return (k, v)

end

/-- Skip the marks behind documents. -/
def skipEnds (p : Progress) : Progress :=
  { p with tokens := p.tokens.dropWhile (· = .documentEnd) }

/-- The only document of a text. -/
def document (fuel : Nat) : Parser Node := do
  let n ←
    match ← peek with
    | none => return absent
    | some .documentStart | some .documentEnd =>
        modify skipEnds
        if (← peek).isNone then return absent
        unless ← accept .documentStart do failure
        if (← peek).isNone || (← nextIs [.documentStart, .documentEnd]) then pure absent
        else node .block fuel
    | _ => node .block fuel
  modify skipEnds
  if (← peek).isSome then failure
  return n

end Parser

/-- The document that tokens make up. -/
def Node.ofTokens? (ts : List Token) : Option Node :=
  (Parser.document (3 * ts.length + 3)).run' { tokens := ts }

end RouteDoc.Yaml
