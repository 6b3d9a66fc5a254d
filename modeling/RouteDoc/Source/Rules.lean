import RouteDoc.Rule.Mapping
import RouteDoc.Source.Index
import RouteDoc.Source.Issue
import RouteDoc.Source.Literal
/-!
# RouteDoc.Source.Rules

**Validation rules in sources.** The rules of a request are an array of fields; each field has a text,
a rule object or a list of both.

* `SourceFile.rules` reads such an array; a field whose rules cannot be read is left out.
* `SourceFile.ruleObject?` reads a rule object, which is made by a class method or by a class; calls
  that refine it say nothing more.
* The cases of an enumeration (`SourceIndex.enumParams`) are read where its class is named.
-/

namespace RouteDoc.Source

open RouteDoc.Text

/-! ### Enumerations -/

/-- The word behind the colon of an enumeration's header at the front of a text. -/
def backingHere? (cs : List Char) : Option String :=
  if (cs.take 4).map Char.toLower ≠ "enum".toList then none
  else do
    let (_, rest) ← wordBehindBlank? (cs.drop 4)
    match skipBlank rest with
    | ':' :: rest =>
        let type := (skipBlank rest).map Char.toLower
        if "int".toList.isPrefixOf type then some "int"
        else if "string".toList.isPrefixOf type then some "string"
        else none
    | _ => none

/-- The type of an enumeration's values in a header. -/
def backing? : List Char → Option String
  | [] => none
  | c :: rest => match backingHere? (c :: rest) with
      | some type => some type
      | none => backing? rest

/-- The value of each case; its name where the value cannot be read. -/
def EnumSource.values (e : EnumSource) : List Value :=
  (Syntax.nodesOf e.members).filterMap fun node => match node with
    | .enumCase name value => some (((value.head?).bind Syntax.literal?).getD (.str name))
    | _ => none

/-- What an enumeration tells about a rule. -/
def EnumSource.params (e : EnumSource) : Fragment :=
  let backing : Fragment := match backing? (before '{' e.text).toList with
    | some type => [("backing", .str type)]
    | none => []
  ("values", .arr e.values) :: backing

/-- What the enumeration of a name tells about a rule. -/
def SourceIndex.enumParams (index : SourceIndex) (name : String) : Noting Fragment := do
  match index.enum? name with
  | some e => return e.params
  | none =>
      note (.missingEnum name)
      return []

/-! ### Rule objects -/

/-- The kinds of rules that class methods of the rule builder make. -/
def builderKinds : Table String Rule.ObjectKind :=
  [ ("in", .oneOf), ("notIn", .noneOf), ("enum", .enum), ("unique", .unique),
    ("exists", .exists), ("requiredIf", .requiredIf), ("dimensions", .dimensions),
    ("file", .file), ("imageFile", .file) ]

/-- The kinds of rules that classes make. -/
def classKinds : Table String Rule.ObjectKind :=
  [ ("Enum", .enum), ("In", .oneOf), ("NotIn", .noneOf), ("Unique", .unique),
    ("Exists", .exists), ("Password", .password), ("File", .file), ("ImageFile", .file),
    ("Dimensions", .dimensions), ("RequiredIf", .requiredIf) ]

/-- The call that a chain of method calls starts with. -/
def chainStart : Syntax → Syntax
  | .group (inner :: _) => chainStart inner
  | .call false target _ _ _ => chainStart target
  | node => node

/-- The values of an array's items. -/
def itemValues (items : List Syntax) : List Syntax :=
  items.filterMap fun node => match node with
    | .item _ (value :: _) _ => some value.unwrap
    | _ => none

/-- The least length of a password, when it is written down. -/
def leastLength (arguments : List Syntax) : Fragment :=
  match arguments.head?.bind Syntax.literal? with
  | some (.int n) => [("min", .int n)]
  | some (.bool b) => [("min", .bool b)]
  | _ => []

/-- The values among which a rule chooses: those of an array, or the arguments. -/
def chosenValues (arguments : List Syntax) : List Value :=
  match arguments.map Syntax.unwrap with
  | .array items :: _ => (itemValues items).filterMap Syntax.literal?
  | arguments => arguments.filterMap Syntax.literal?

namespace SourceFile

/-- A rule of a kind with the arguments it is made from. -/
def ruleOfKind (f : SourceFile) (index : SourceIndex) (kind : Rule.ObjectKind)
    (arguments : List Syntax) : Noting Rule.Object := do
  match kind, arguments.head?.map Syntax.unwrap with
  | .oneOf, _ | .noneOf, _ =>
      return { kind, params := [("values", .arr (chosenValues arguments))] }
  | .enum, some (.constant scope _ _) =>
      let className := f.resolve scope
      return { kind, className, params := ← index.enumParams className }
  | _, _ => return { kind }

/-- The rule that a call of a class method makes. -/
def ruleOfCall (f : SourceFile) (index : SourceIndex) (scope method : String)
    (arguments : List Syntax) : Noting Rule.Object := do
  let className := f.resolve scope
  match afterLast '\\' scope with
  | "Password" =>
      let params := if method = "min" then leastLength arguments else []
      return { kind := .password, className, params }
  | "File" => return { kind := .file, className }
  | "Rule" => match Table.get? builderKinds method with
      | some kind => f.ruleOfKind index kind arguments
      | none => return { kind := .custom, className := className ++ "::" ++ method }
  | _ => return { kind := .custom, className := className ++ "::" ++ method }

/-- The rule that a new object is. -/
def ruleOfClass (f : SourceFile) (index : SourceIndex) (name : String)
    (arguments : List Syntax) : Noting Rule.Object := do
  match Table.get? classKinds (afterLast '\\' name) with
  | none => return { kind := .custom, className := f.resolve name }
  | some .password => return { kind := .password, params := leastLength arguments }
  | some kind => f.ruleOfKind index kind arguments

/-- The rule object that an expression makes. -/
def ruleObject? (f : SourceFile) (index : SourceIndex) (node : Syntax) :
    Noting (Option Rule.Object) := do
  match chainStart node with
  | .staticCall scope method _ arguments => return some (← f.ruleOfCall index scope method arguments)
  | .create name _ arguments => return some (← f.ruleOfClass index name arguments)
  | _ => return none

/-! ### Fields -/

/-- The rules that a list writes; what is no rule is left out. -/
def ruleEntries (f : SourceFile) (index : SourceIndex) :
    List Syntax → Noting (List Rule.Entry)
  | [] => return []
  | .string text _ :: rest => return .text (Literal.unquote text) :: (← ruleEntries f index rest)
  | node :: rest => do
      match ← f.ruleObject? index node with
      | some object => return .item (.object object) :: (← ruleEntries f index rest)
      | none => ruleEntries f index rest

/-- The rules that an expression writes. -/
def ruleExpr? (f : SourceFile) (index : SourceIndex) (node : Syntax) :
    Noting (Option Rule.Expr) := do
  match node with
  | .string text _ => return some (.text (Literal.unquote text))
  | .array items => return some (.list (← f.ruleEntries index (itemValues items)))
  | node => match ← f.ruleObject? index node with
      | some object => return some (.list [.item (.object object)])
      | none =>
          note (.unsupportedRule node.kindName f.name)
          return none

/-- The rules of the fields that an array writes. -/
def rulesOfItems (f : SourceFile) (index : SourceIndex) (done : Rule.RuleMap) :
    List Syntax → Noting Rule.RuleMap
  | [] => return done
  | .item (key :: _) (value :: _) _ :: rest => match key.literal? with
      | some (.str field) => do
          match ← f.ruleExpr? index value.unwrap with
          | some e => rulesOfItems f index (done.insert (.text field) e) rest
          | none => rulesOfItems f index done rest
      | _ => rulesOfItems f index done rest
  | _ :: rest => rulesOfItems f index done rest

/-- The rules that an expression writes; only an array writes any. -/
def rules (f : SourceFile) (index : SourceIndex) (node : Syntax) : Noting Rule.RuleMap :=
  match node with
  | .array items => f.rulesOfItems index [] items
  | _ => return []

end SourceFile

/-- Whether an expression is an array. -/
def isArray : Syntax → Bool
  | .array _ => true
  | _ => false

/-- The rules of a request class. -/
def SourceIndex.requestRules (index : SourceIndex) (name : String) :
    Noting (Option Rule.RuleMap) := do
  match index.class? name with
  | none => note (.missingRequest name); return none
  | some (file, found) => match found.method? "rules" with
      | none => note (.requestWithoutRules name); return none
      | some method => match method.returns.find? isArray with
          | none => note (.computedRules name); return none
          | some array => return some (← file.rules index array)

end RouteDoc.Source
