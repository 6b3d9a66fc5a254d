import RouteDoc.ClassName
import RouteDoc.Rule.Basic
/-!
# RouteDoc.Rule.Transform

**What each rule does to a schema.** The rules of a field are applied from left to right, starting
from a plain string.

* `tokenEffects` names the effect of each known token; an unknown token has none.
* Size rules read the type that is current when they are applied, so `integer|min:1` and
  `min:1|integer` differ on purpose.
* A rule object whose parameters cannot be used leaves the schema as it is and a `Diagnostic`
  behind (`applyItems`); no rule stops the others.
-/

namespace RouteDoc.Rule

open RouteDoc.Text
open RouteDoc.Number

/-! ### Tokens -/

/-- What a token does to a schema. -/
inductive TokenEffect where
  /-- Write fixed keys. -/
  | set (keys : Fragment)
  /-- Write the lower bound of the current type. -/
  | lowerBound
  /-- Write the upper bound of the current type. -/
  | upperBound
  /-- Write both bounds from two arguments. -/
  | between
  /-- Write both bounds from one argument. -/
  | size
  /-- A text of exactly so many digits. -/
  | digits
  /-- A text of at least and at most so many digits. -/
  | digitsBetween
  /-- A date in a named format. -/
  | dateFormat
  /-- One of the listed values. -/
  | oneOf
  /-- A regular expression, its delimiters and flags taken off. -/
  | pattern
deriving DecidableEq, Inhabited

/-- The schema of the items of an array about which nothing more is known. -/
def defaultItems : Fragment := [("type", .str "string")]

/-- Keys that set a type. -/
def typed (type : String) : TokenEffect := .set [("type", .str type)]

/-- Keys that set a string of a format. -/
def formatted (format : String) : TokenEffect :=
  .set [("type", .str "string"), ("format", .str format)]

/-- Keys that set an array of unknown items. -/
def listed : TokenEffect := .set [("type", .str "array"), ("items", .obj defaultItems)]

/-- Keys that set a pattern. -/
def patterned (pattern : String) : TokenEffect := .set [("pattern", .str pattern)]

/-- The effect of each known token. -/
def tokenEffects : Table String TokenEffect :=
  [ ("string", typed "string"),
    ("integer", typed "integer"),
    ("int", typed "integer"),
    ("numeric", typed "number"),
    ("decimal", typed "number"),
    ("boolean", typed "boolean"),
    ("bool", typed "boolean"),
    ("accepted", typed "boolean"),
    ("declined", typed "boolean"),
    ("array", listed),
    ("list", listed),
    ("json", typed "object"),
    ("file", formatted "binary"),
    ("image", formatted "binary"),
    ("mimes", formatted "binary"),
    ("mimetypes", formatted "binary"),
    ("email", formatted "email"),
    ("url", formatted "uri"),
    ("active_url", formatted "uri"),
    ("uuid", formatted "uuid"),
    ("ip", formatted "ipv4"),
    ("ipv4", formatted "ipv4"),
    ("ipv6", formatted "ipv6"),
    ("date", formatted "date"),
    ("date_format", .dateFormat),
    ("password", formatted "password"),
    ("min", .lowerBound),
    ("max", .upperBound),
    ("between", .between),
    ("size", .size),
    ("digits", .digits),
    ("digits_between", .digitsBetween),
    ("in", .oneOf),
    ("regex", .pattern),
    ("alpha", patterned "^[a-zA-Z]+$"),
    ("alpha_num", patterned "^[a-zA-Z0-9]+$"),
    ("alpha_dash", patterned "^[a-zA-Z0-9_-]+$"),
    ("nullable", .set [("nullable", .bool true)]) ]

/-- The keys that bound the size of a value of a type: lower and upper. -/
def boundKeys : Table String (String × String) :=
  [ ("integer", ("minimum", "maximum")),
    ("number", ("minimum", "maximum")),
    ("string", ("minLength", "maxLength")),
    ("array", ("minItems", "maxItems")) ]

/-- The bound keys of a schema's current type. -/
def currentBounds? (schema : Fragment) : Option (String × String) :=
  match Table.get? schema "type" with
  | some (.str type) => Table.get? boundKeys type
  | _ => none

/-- The types of numbers. -/
def numericTypes : List String := ["integer", "number"]

/-- Whether a schema is of a numeric type. -/
def isNumeric (schema : Fragment) : Bool :=
  match Table.get? schema "type" with
  | some (.str type) => type ∈ numericTypes
  | _ => false

/-- The number that a text is: an integer if possible. -/
def number? (s : String) : Option Value :=
  match readInt? s with
  | some n => some (.int n)
  | none => (readFloat? s).map .float

/-- Texts among the values of a numeric enumeration become numbers where they are numerals. -/
def coerce (numeric : Bool) (values : List Value) : List Value :=
  if numeric then
    values.map fun v => match v with
      | .str s => (number? (trim s)).getD v
      | v => v
  else values

/-- Date formats that have a name of their own. -/
def dateFormats : Table String String :=
  [ ("Y-m-d", "date"),
    ("Y-m-d H:i:s", "date-time"),
    ("Y-m-d\\TH:i:s\\Z", "date-time"),
    ("Y-m-d\\TH:i:sP", "date-time"),
    ("c", "date-time"),
    ("H:i:s", "time"),
    ("H:i", "time") ]

/-- The delimiters that a regular expression may stand between. -/
def delimiters : List Char := ['/', '#', '~', '!', '%']

/-- Whether characters can stand behind a closing delimiter: letters, and at most one new line at
the end. -/
def areFlags (cs : List Char) : Bool :=
  match cs.dropWhile Char.isAlpha with
  | [] => true
  | ['\n'] => true
  | _ => false

/-- The body of a delimited regular expression: what stands between the first character and its
last place, when only flags follow. -/
def undelimited? : List Char → Option (List Char)
  | [] => none
  | d :: rest =>
      if d ∈ delimiters ∧ d ∈ rest then
        if areFlags (afterLastChars d rest) then some (beforeLastChars d rest) else none
      else none

/-- A pattern of digits, `counts` times. -/
def digitPattern (counts : String) : Value := .str ("^\\d\x7b" ++ counts ++ "\x7d$")

/-- Write a string type with a pattern of digits. -/
def withDigits (schema : Fragment) (counts : String) : Fragment :=
  Table.insertAll schema [("type", .str "string"), ("pattern", digitPattern counts)]

/-- What the token does to the schema. -/
def TokenEffect.apply (effect : TokenEffect) (schema : Fragment) (t : Token) : Fragment :=
  match effect with
  | .set keys => Table.insertAll schema keys
  | .lowerBound =>
      match t.arguments, currentBounds? schema with
      | a :: _, some (low, _) => match number? a with
          | some n => Table.insert schema low n
          | none => schema
      | _, _ => schema
  | .upperBound =>
      match t.arguments, currentBounds? schema with
      | a :: _, some (_, high) => match number? a with
          | some n => Table.insert schema high n
          | none => schema
      | _, _ => schema
  | .between =>
      match t.arguments, currentBounds? schema with
      | a :: b :: _, some (low, high) => match number? a, number? b with
          | some m, some n => Table.insert (Table.insert schema low m) high n
          | _, _ => schema
      | _, _ => schema
  | .size =>
      match t.arguments, currentBounds? schema with
      | a :: _, some (low, high) => match number? a with
          | some n => Table.insert (Table.insert schema low n) high n
          | none => schema
      | _, _ => schema
  | .digits =>
      match t.arguments with
      | a :: _ => if isDigits a then withDigits schema a else schema
      | _ => schema
  | .digitsBetween =>
      match t.arguments with
      | a :: b :: _ =>
          if isDigits a && isDigits b then withDigits schema (a ++ "," ++ b) else schema
      | _ => schema
  | .dateFormat =>
      let format := match t.argument with
        | none | some "" => "Y-m-d"
        | some format => format
      match Table.get? dateFormats format with
      | some name => Table.insertAll schema [("type", .str "string"), ("format", .str name)]
      | none => Table.insertAll schema [("type", .str "string"), ("example", .str format)]
  | .oneOf =>
      match t.arguments.map (trimBy (· = '"')) with
      | [] => schema
      | values => Table.insert schema "enum" (.arr (coerce (isNumeric schema) (values.map .str)))
  | .pattern =>
      match t.argument with
      | none | some "" => schema
      | some raw =>
          let body := (undelimited? raw.toList).getD raw.toList
          Table.insert schema "pattern" (.str (String.ofList body))

/-- What a token does to a schema: nothing when it is unknown. -/
def Token.apply (t : Token) (schema : Fragment) : Fragment :=
  match Table.get? tokenEffects t.name with
  | some effect => effect.apply schema t
  | none => schema

/-! ### Rule objects -/

/-- The listed values of a rule object; nothing when there is no list or an empty one. -/
def Object.values (o : Object) : Except Fault (List Value) :=
  match Table.get? o.params "values" with
  | some v => if v.isTruthy then v.iterate else .ok []
  | none => .ok []

/-- Write the type of the values behind an enumeration, when it is known. -/
def Object.withBacking (o : Object) (schema : Fragment) : Fragment :=
  match Table.get? o.params "backing" with
  | some (.str "int") => Table.insert schema "type" (.str "integer")
  | some (.str "string") => Table.insert schema "type" (.str "string")
  | _ => schema

/-- Whether there are listed values. -/
def Object.isListed (o : Object) : Bool :=
  match Table.get? o.params "values" with
  | some v => v.isTruthy
  | none => false

/-- An enumeration: the backing type, then the cases, else a sentence about its class. -/
def applyEnum (o : Object) (schema : Fragment) : Except Fault Fragment :=
  let schema := o.withBacking schema
  if o.isListed then
    o.values.map fun values => Table.insert schema "enum" (.arr (coerce (isNumeric schema) values))
  else if o.className ≠ "" then
    .ok (Table.insert schema "description"
      (.str ("Must be a valid " ++ ClassName.base o.className ++ " value")))
  else .ok schema

/-- What a rule object does to a schema, or why its parameters cannot be used. -/
def Object.apply (o : Object) (schema : Fragment) : Except Fault Fragment :=
  match o.kind with
  | .password => .ok <| Table.insertAll schema
      [ ("type", .str "string"), ("format", .str "password"),
        ("minLength", (Table.get? o.params "min").getD (.int 8)) ]
  | .enum => applyEnum o schema
  | .oneOf => do
      match ← o.values with
      | [] => return schema
      | values => return Table.insert schema "enum" (.arr (coerce (isNumeric schema) values))
  | .dimensions | .file =>
      .ok (Table.insertAll schema [("type", .str "string"), ("format", .str "binary")])
  | .custom =>
      let name := if o.className = "" then "unknown" else ClassName.base o.className
      .ok (Table.insert schema "description" (.str ("Custom validation rule: " ++ name)))
  | .noneOf | .unique | .exists | .requiredIf => .ok schema

/-! ### All rules of a field -/

/-- What a rule does to a schema. -/
def Item.apply (i : Item) (schema : Fragment) : Except Fault Fragment :=
  match i with
  | .token t => .ok (t.apply schema)
  | .object o => o.apply schema

/-- What could not be used on the way from rules to a schema. -/
inductive Diagnostic where
  /-- A rule was left out. -/
  | ruleSkipped (name : String) (fault : Fault)
  /-- The rules of a field were replaced by a plain string; `field` is the quoted name. -/
  | fieldSkipped (field : String) (fault : Fault)
deriving DecidableEq, Repr

/-- A diagnostic in words. -/
def Diagnostic.message : Diagnostic → String
  | .ruleSkipped name fault =>
      "rule " ++ quoted name ++ " could not be applied: " ++ fault.message
  | .fieldSkipped field fault => "field " ++ field ++ " could not be mapped: " ++ fault.message

/-- The schema of a field before any rule. -/
def plainField : Fragment := [("type", .str "string")]

/-- Apply one rule to a schema and the diagnostics so far. -/
def applyItem (state : Fragment × List Diagnostic) (i : Item) : Fragment × List Diagnostic :=
  match i.apply state.1 with
  | .ok schema => (schema, state.2)
  | .error fault => (state.1, state.2 ++ [.ruleSkipped i.name fault])

/-- Apply rules in order to a plain string. -/
def applyItems (items : List Item) : Fragment × List Diagnostic :=
  items.foldl applyItem (plainField, [])

/-- The schema of a field with the given rules. -/
def Expr.fieldSchema (e : Expr) : Except Fault (Fragment × List Diagnostic) :=
  e.items.map applyItems

end RouteDoc.Rule
