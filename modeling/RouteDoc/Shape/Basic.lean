import RouteDoc.Value
/-!
# RouteDoc.Shape.Basic

**Expression trees of responses.** A resource describes its response by an array expression; what
matters of it is kept in trees of the nodes below.

Names and literals are values and not texts, because a tree may be put together by hand and hold
anything; the inference says what it could not use.
-/

namespace RouteDoc.Shape

/-- An expression inside a response. -/
inductive Node where
  /-- A text. -/
  | string (value : Value)
  /-- An integer. -/
  | int (value : Value)
  /-- A number with a fraction. -/
  | float (value : Value)
  /-- A truth value. -/
  | bool (value : Value)
  /-- No value. -/
  | null
  /-- A variable. -/
  | variable (name : Value)
  /-- A property of an object. -/
  | property (target : Node) (name : Value)
  /-- A method call. -/
  | call (target : Node) (method : Value) (arguments : List Node)
  /-- A call of a class method. -/
  | staticCall (className method : Value) (arguments : List Node)
  /-- A function call. -/
  | functionCall (name : Value) (arguments : List Node)
  /-- An object made from a class. -/
  | create (className : Value) (arguments : List Node)
  /-- A constant of a class; `class` is its name. -/
  | constant (className constant : Value)
  /-- A choice; the short form leaves out the first branch. -/
  | conditional (condition : Node) (ifTrue ifFalse : Option Node)
  /-- The left value, or the right one when that is missing. -/
  | coalesce (left right : Node)
  /-- An array: the value of each item, its key, and whether it is spread. -/
  | array (items : List (Node × Option Node × Bool))
  /-- Anything else; the kind is for messages only. -/
  | unknown (kind : Value)
deriving Inhabited

/-- An item of an array: value, key, and whether it is spread. -/
abbrev Item := Node × Option Node × Bool

/-- The name of a node's kind in messages. -/
def Node.kindName : Node → String
  | .string _ => "StringLiteral"
  | .int _ => "IntLiteral"
  | .float _ => "FloatLiteral"
  | .bool _ => "BoolLiteral"
  | .null => "NullLiteral"
  | .variable _ => "Variable"
  | .property .. => "PropertyAccess"
  | .call .. => "MethodCall"
  | .staticCall .. => "StaticCall"
  | .functionCall .. => "FunctionCall"
  | .create .. => "ObjectCreation"
  | .constant .. => "ClassConstant"
  | .conditional .. => "Conditional"
  | .coalesce .. => "NullCoalesce"
  | .array _ => "ArrayLiteral"
  | .unknown _ => "Unknown"

/-- The value of a literal, and the name of a class that is asked for by `class`. -/
def Node.literal : Node → Value
  | .string v | .int v | .float v | .bool v => v
  | .constant className name => if name = .str "class" then className else .null
  | _ => .null

/-- What a function returns, in the order of its return statements. -/
structure Tree where
  /-- The returned expressions. -/
  returns : List Node := []
  /-- The name of the resource. -/
  name : Option String := none
  /-- Whether the resource stands for a list of items. -/
  isCollection : Bool := false
  /-- The class of the items, when the resource names it. -/
  collects : Value := .null
deriving Inhabited

end RouteDoc.Shape
