import RouteDoc.Fault
import RouteDoc.Text.Pieces
/-!
# RouteDoc.Rule.Basic

**Validation rules as data.** The rules of a field are written as a text (`required|max:10`), as a
list, or as a rule object.

* `Rule.Token` is one `name:argument` of a text, `Rule.Object` a rule object with its parameters,
  `Rule.Item` either of them.
* `Rule.Expr` is whatever may be given as the rules of a field, values without meaning included;
  `Rule.Expr.items` flattens it into items or says why that cannot be done.
* The first item of the required family or of its opposites decides whether a field is required.
-/

namespace RouteDoc.Rule

open RouteDoc.Text

/-- One validation token: a name, and an argument when a colon was written. -/
structure Token where
  /-- The name of the rule. -/
  name : String
  /-- Everything behind the first colon. -/
  argument : Option String
deriving DecidableEq, Repr, Inhabited

/-- Read a token: the name is trimmed and in lower case, the argument is kept as it is. -/
def Token.parse (s : String) : Token :=
  match cut? ':' (trim s) with
  | some (name, argument) => ⟨lower (trim name), some argument⟩
  | none => ⟨lower (trim (trim s)), none⟩

/-- The arguments between the commas, trimmed. -/
def Token.arguments (t : Token) : List String :=
  match t.argument with
  | none => []
  | some "" => []
  | some s => (split ',' s).map trim

/-- What a rule object checks. -/
inductive ObjectKind where
  | password | enum | oneOf | noneOf | unique | exists | requiredIf | dimensions | file | custom
deriving DecidableEq, Repr, Inhabited

/-- The name of a kind among rule names. -/
def ObjectKind.name : ObjectKind → String
  | .password => "password"
  | .enum => "enum"
  | .oneOf => "in"
  | .noneOf => "not_in"
  | .unique => "unique"
  | .exists => "exists"
  | .requiredIf => "required_if"
  | .dimensions => "dimensions"
  | .file => "file"
  | .custom => "custom"

/-- All kinds of rule objects. -/
def ObjectKind.all : List ObjectKind :=
  [.password, .enum, .oneOf, .noneOf, .unique, .exists, .requiredIf, .dimensions, .file, .custom]

/-- The kind of a name. -/
def ObjectKind.ofName? (name : String) : Option ObjectKind := all.find? (·.name = name)

/-- A rule object. -/
structure Object where
  /-- What it checks. -/
  kind : ObjectKind
  /-- The class it is made from; empty when it has none. -/
  className : String := ""
  /-- The parameters that could be read. -/
  params : Fragment := []
deriving DecidableEq, Inhabited

/-- One rule of a field. -/
inductive Item where
  /-- A token. -/
  | token (t : Token)
  /-- A rule object. -/
  | object (o : Object)
deriving DecidableEq, Inhabited

/-- The name by which a rule is known. -/
def Item.name : Item → String
  | .token t => t.name
  | .object o => o.kind.name

/-- A member of a list of rules. -/
inductive Entry where
  /-- A text that holds one token. -/
  | text (s : String)
  /-- A rule that is read already. -/
  | item (i : Item)
  /-- A value without meaning here. -/
  | other (v : Value)
deriving DecidableEq, Inhabited

/-- What may be given as the rules of a field. -/
inductive Expr where
  /-- No rules. -/
  | absent
  /-- Tokens between bars. -/
  | text (s : String)
  /-- One rule object. -/
  | object (o : Object)
  /-- One token by itself, which is no list of rules. -/
  | token (t : Token)
  /-- A list of rules. -/
  | list (entries : List Entry)
  /-- Any other value. -/
  | other (v : Value)
deriving DecidableEq, Inhabited

/-- The rule of a list member; blank texts and values without meaning give none. -/
def Entry.item? : Entry → Option Item
  | .text s => if isBlankText s then none else some (.token (.parse s))
  | .item i => some i
  | .other _ => none

/-- The list member that a part of a value is. -/
def Entry.ofValue : Value → Entry
  | .str s => .text s
  | v => .other v

/-- The rules of an expression in order. -/
def Expr.items : Expr → Except Fault (List Item)
  | .absent => .ok []
  | .text s => .ok ((split '|' s).filterMap fun part => (Entry.text part).item?)
  | .object o => .ok [.object o]
  | .token _ => .error (.notIterable "RuleToken")
  | .list entries => .ok (entries.filterMap Entry.item?)
  | .other v => v.iterate.map fun parts => parts.filterMap fun part => (Entry.ofValue part).item?

/-! ### Required fields -/

/-- Rules that make a field required. -/
def requiredFamily : List String := ["required", "required_if", "required_unless"]

/-- Rules that make a field optional. -/
def optionalFamily : List String := ["sometimes", "nullable"]

/-- Whether the field is required: the first rule of either family decides. -/
def isRequired : List Item → Bool
  | [] => false
  | i :: rest =>
      if i.name ∈ requiredFamily then true
      else if i.name ∈ optionalFamily then false
      else isRequired rest

/-- The name of the property at the top that a field belongs to. -/
def topLevelName (field : String) : String := before '*' (before '.' field)

/-- The parts of a field name between the dots, empty ones left out. -/
def segments (field : String) : List String := (split '.' field).filter (· ≠ "")

end RouteDoc.Rule
