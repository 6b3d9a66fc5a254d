import RouteDoc.Shape.Basic
import RouteDoc.Source.File
import RouteDoc.Source.Literal
/-!
# RouteDoc.Source.Shape

**From syntax to shapes.** An expression of a source becomes a node of an expression tree of responses.
Class names are completed on the way, and each is noted under its short name (`ClassTable`).
-/

namespace RouteDoc.Source

open RouteDoc.Text

/-- Full class names by their short names; a later class of the same short name wins. -/
abbrev ClassTable := Table String String

namespace SourceFile

/-- The full name of a class, which is noted. -/
def noteClass (f : SourceFile) (name : String) : StateM ClassTable String := do
  let full := f.resolve name
  modify fun classes => Table.insert classes (afterLast '\\' full) full
  return full

/-- The node of a literal, or of one without a value. -/
def literalNode (make : Value → Shape.Node) (value : Option Value) (kind : String) : Shape.Node :=
  match value with
  | some v => make v
  | none => .unknown (.str kind)

mutual

/-- The node of an expression. -/
def shape (f : SourceFile) : Syntax → StateM ClassTable Shape.Node
  | .group (inner :: _) => shape f inner
  | .string text _ => return .string (.str (Literal.unquote text))
  | .integer text => return literalNode .int ((Literal.integer? text).map .int) "integer"
  | .float text => return literalNode .float ((Literal.float? text).map .float) "float"
  | .boolean value => return .bool (.bool value)
  | .null => return .null
  | .variable text => return .variable (.str (trimLeftBy (· = '$') text))
  | .property _ target name _ => return .property (← shape f target) (.str name)
  | .call _ target name _ arguments => do
      let target ← shape f target
      return .call target (.str name) (← shapes f arguments)
  | .staticCall scope name _ arguments => do
      let className ← f.noteClass scope
      return .staticCall (.str className) (.str name) (← shapes f arguments)
  | .functionCall name _ arguments => return .functionCall (.str name) (← shapes f arguments)
  | .create name _ arguments => do
      let className ← f.noteClass name
      return .create (.str className) (← shapes f arguments)
  | .constant scope name _ => return .constant (.str (← f.noteClass scope)) (.str name)
  | .conditional condition ifTrue ifFalse => do
      let condition ← shape f condition
      let ifTrue ← shape f ifTrue
      return .conditional condition (some ifTrue) (some (← shape f ifFalse))
  | .shortConditional condition ifFalse => do
      let condition ← shape f condition
      return .conditional condition none (some (← shape f ifFalse))
  | .coalesce left right => do
      let left ← shape f left
      return .coalesce left (← shape f right)
  | .array items => return .array (← itemShapes f items)
  | node => return .unknown (.str node.kindName)

/-- The nodes of some expressions. -/
def shapes (f : SourceFile) : List Syntax → StateM ClassTable (List Shape.Node)
  | [] => return []
  | node :: rest => do
      let first ← shape f node
      return first :: (← shapes f rest)

/-- The items of an array. -/
def itemShapes (f : SourceFile) : List Syntax → StateM ClassTable (List Shape.Item)
  | [] => return []
  | .item [] (value :: _) spread :: rest => do
      let value ← shape f value
      return (value, none, spread) :: (← itemShapes f rest)
  | .item (key :: _) (value :: _) spread :: rest => do
      let key ← shape f key
      let value ← shape f value
      return (value, some key, spread) :: (← itemShapes f rest)
  | _ :: rest => itemShapes f rest

end

end SourceFile

end RouteDoc.Source
