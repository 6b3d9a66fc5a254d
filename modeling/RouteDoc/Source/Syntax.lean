/-!
# RouteDoc.Source.Syntax

**Syntax trees of PHP sources.** Expressions that can describe a rule or a part of a response have a
node of their own; any other is only known by its `Form` and by what is inside.

* Statements are kept as a flat list in the order of the source, because all that is asked of them is
  which returns, calls and declarations they hold.
* A node keeps names as they are written, for they are resolved by the file they stand in.
* `Syntax.nodes` lists a node with all that is inside it, outer nodes first.
-/

namespace RouteDoc.Source

/-- Forms of expressions that are looked into but not understood. -/
inductive Form where
  | unary | binary | assignment | referenceAssignment | augmentedAssignment | update | cast | clone
  | match | arrowFunction | anonymousFunction | subscript | dynamicVariable | classProperty
  | heredoc | nowdoc | command | print | include | includeOnce | require | requireOnce | throw
  | yield | suppression | name | qualifiedName | reference | unpacking | list | comment
  | declaration
deriving DecidableEq, Repr, Inhabited

/-- The name of a form in messages. -/
def Form.kindName : Form → String
  | .unary => "unary_op_expression"
  | .binary => "binary_expression"
  | .assignment => "assignment_expression"
  | .referenceAssignment => "reference_assignment_expression"
  | .augmentedAssignment => "augmented_assignment_expression"
  | .update => "update_expression"
  | .cast => "cast_expression"
  | .clone => "clone_expression"
  | .match => "match_expression"
  | .arrowFunction => "arrow_function"
  | .anonymousFunction => "anonymous_function"
  | .subscript => "subscript_expression"
  | .dynamicVariable => "dynamic_variable_name"
  | .classProperty => "scoped_property_access_expression"
  | .heredoc => "heredoc"
  | .nowdoc => "nowdoc"
  | .command => "shell_command_expression"
  | .print => "print_intrinsic"
  | .include => "include_expression"
  | .includeOnce => "include_once_expression"
  | .require => "require_expression"
  | .requireOnce => "require_once_expression"
  | .throw => "throw_expression"
  | .yield => "yield_expression"
  | .suppression => "error_suppression_expression"
  | .name => "name"
  | .qualifiedName => "qualified_name"
  | .reference => "by_ref"
  | .unpacking => "variadic_unpacking"
  | .list => "list_literal"
  | .comment => "comment"
  | .declaration => "declaration"

/-- A parameter of a method. -/
structure Parameter where
  /-- Whether it only names a value: it is no property and takes no further values. -/
  isPlain : Bool
  /-- The last class that its type names; none for a choice of types. -/
  className : Option String
deriving DecidableEq, Inhabited

/-- A node of a syntax tree. -/
inductive Syntax where
  /-- A text, with its quotes and with the code inside it. -/
  | string (text : String) (inner : List Syntax)
  /-- A whole number. -/
  | integer (text : String)
  /-- A number with a point or an exponent. -/
  | float (text : String)
  /-- A truth value. -/
  | boolean (value : Bool)
  /-- No value. -/
  | null
  /-- A variable with its dollar sign. -/
  | variable (text : String)
  /-- A property; a computed name has code inside it. -/
  | property (nullsafe : Bool) (target : Syntax) (name : String) (inner : List Syntax)
  /-- A method call. -/
  | call (nullsafe : Bool) (target : Syntax) (name : String) (inner : List Syntax)
      (arguments : List Syntax)
  /-- A call of a class method; a computed class or name has code inside it. -/
  | staticCall (scope name : String) (inner : List Syntax) (arguments : List Syntax)
  /-- A function call. -/
  | functionCall (name : String) (inner : List Syntax) (arguments : List Syntax)
  /-- A new object; the name is empty unless the class is written down. -/
  | create (className : String) (inner : List Syntax) (arguments : List Syntax)
  /-- A constant of a class. -/
  | constant (scope name : String) (inner : List Syntax)
  /-- A choice of two values. -/
  | conditional (condition ifTrue ifFalse : Syntax)
  /-- A choice that takes the condition for its first value. -/
  | shortConditional (condition ifFalse : Syntax)
  /-- A value, or another one where that is missing. -/
  | coalesce (left right : Syntax)
  /-- An array with its items. -/
  | array (items : List Syntax)
  /-- An item of an array: what stands for its key, if anything, and what stands for its value. -/
  | item (key value : List Syntax) (spread : Bool)
  /-- Whatever stands in parentheses. -/
  | group (inner : List Syntax)
  /-- Another expression. -/
  | other (form : Form) (inner : List Syntax)
  /-- A return statement. -/
  | returned (inner : List Syntax)
  /-- A method; `inner` holds its defaults and statements. -/
  | method (name : String) (parameters : List Parameter) (inner : List Syntax)
  /-- A class: the class it extends, the comment before it, its text and its members. -/
  | classDeclaration (name : String) (parent comment : Option String) (text : String)
      (members : List Syntax)
  /-- An enumeration with its text. -/
  | enumDeclaration (name text : String) (members : List Syntax)
  /-- A case of an enumeration with its value. -/
  | enumCase (name : String) (value : List Syntax)
  /-- The name of a namespace that starts here. -/
  | namespaceDeclaration (name : String)
  /-- Imported names: what they are below, and the text of each. -/
  | useDeclaration (group : String) (clauses : List String)
deriving Inhabited

namespace Syntax

/-- The name of a node's kind in messages. -/
def kindName : Syntax → String
  | .string .. => "string"
  | .integer _ => "integer"
  | .float _ => "float"
  | .boolean _ => "boolean"
  | .null => "null"
  | .variable _ => "variable_name"
  | .property nullsafe .. =>
      if nullsafe then "nullsafe_member_access_expression" else "member_access_expression"
  | .call nullsafe .. =>
      if nullsafe then "nullsafe_member_call_expression" else "member_call_expression"
  | .staticCall .. => "scoped_call_expression"
  | .functionCall .. => "function_call_expression"
  | .create .. => "object_creation_expression"
  | .constant .. => "class_constant_access_expression"
  | .conditional .. | .shortConditional .. => "conditional_expression"
  | .coalesce .. => "binary_expression"
  | .array _ => "array_creation_expression"
  | .item .. => "array_element_initializer"
  | .group _ => "parenthesized_expression"
  | .other form _ => form.kindName
  | .returned _ => "return_statement"
  | .method .. => "method_declaration"
  | .classDeclaration .. => "class_declaration"
  | .enumDeclaration .. => "enum_declaration"
  | .enumCase .. => "enum_case"
  | .namespaceDeclaration _ => "namespace_definition"
  | .useDeclaration .. => "namespace_use_declaration"

/-- The node without parentheses around it. -/
def unwrap : Syntax → Syntax
  | .group (inner :: _) => unwrap inner
  | node => node

mutual

/-- A node and all that is inside it, outer nodes first. -/
def nodes : Syntax → List Syntax
  | .string text inner => .string text inner :: nodesOf inner
  | .property nullsafe target name inner =>
      .property nullsafe target name inner :: nodes target ++ nodesOf inner
  | .call nullsafe target name inner arguments =>
      .call nullsafe target name inner arguments ::
        nodes target ++ nodesOf inner ++ nodesOf arguments
  | .staticCall scope name inner arguments =>
      .staticCall scope name inner arguments :: nodesOf inner ++ nodesOf arguments
  | .functionCall name inner arguments =>
      .functionCall name inner arguments :: nodesOf inner ++ nodesOf arguments
  | .create className inner arguments =>
      .create className inner arguments :: nodesOf inner ++ nodesOf arguments
  | .constant scope name inner => .constant scope name inner :: nodesOf inner
  | .conditional condition ifTrue ifFalse =>
      .conditional condition ifTrue ifFalse :: nodes condition ++ nodes ifTrue ++ nodes ifFalse
  | .shortConditional condition ifFalse =>
      .shortConditional condition ifFalse :: nodes condition ++ nodes ifFalse
  | .coalesce left right => .coalesce left right :: nodes left ++ nodes right
  | .array items => .array items :: nodesOf items
  | .item key value spread => .item key value spread :: nodesOf key ++ nodesOf value
  | .group inner => .group inner :: nodesOf inner
  | .other form inner => .other form inner :: nodesOf inner
  | .returned inner => .returned inner :: nodesOf inner
  | .method name parameters inner => .method name parameters inner :: nodesOf inner
  | .classDeclaration name parent comment text members =>
      .classDeclaration name parent comment text members :: nodesOf members
  | .enumDeclaration name text members => .enumDeclaration name text members :: nodesOf members
  | .enumCase name value => .enumCase name value :: nodesOf value
  | node => [node]

/-- All nodes of a list of trees. -/
def nodesOf : List Syntax → List Syntax
  | [] => []
  | node :: rest => nodes node ++ nodesOf rest

end

/-- The expressions that are returned inside some trees, without parentheses, in the order of the
source. -/
def returnsOf (trees : List Syntax) : List Syntax :=
  (nodesOf trees).filterMap fun node => match node with
    | .returned (value :: _) => some value.unwrap
    | _ => none

end Syntax

end RouteDoc.Source
