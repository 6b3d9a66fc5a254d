import RouteDoc.ClassName
import RouteDoc.Fault
import RouteDoc.Schema.References
import RouteDoc.Shape.Basic
import RouteDoc.Shape.Names
/-!
# RouteDoc.Shape.Inference

**From expression trees to schemas.** The first array that a resource returns gives the properties
of its schema; the values are described as far as their form and their names tell.

* `value` describes one expression and never fails: a construct that it does not know, or a name
  that is no text, gives a plain object, the latter with a `Diagnostic`.
* `properties` collects the keyed items of an array; spread arrays and the calls of `merge` and its
  kin are spliced in, and later keys win.
* Every reference that is handed out is noted in the `Log` first.
-/

namespace RouteDoc.Shape

open RouteDoc.Schema
open RouteDoc.Text

/-- What was left out of a shape. -/
inductive Diagnostic where
  /-- An expression was replaced by a plain object. -/
  | valueSkipped (kind : String) (fault : Fault)
  /-- A whole shape was replaced by a plain object. -/
  | shapeSkipped (name : String) (fault : Fault)
deriving DecidableEq, Repr

/-- A diagnostic in words. -/
def Diagnostic.message : Diagnostic → String
  | .valueSkipped kind fault => kind ++ " could not be inferred: " ++ fault.message
  | .shapeSkipped name fault =>
      "shape of " ++ name ++ " could not be inferred: " ++ fault.message

/-- What inference leaves behind besides the schema. -/
structure Log where
  /-- The components that were referred to. -/
  references : List String := []
  /-- What was left out. -/
  diagnostics : List Diagnostic := []
deriving Inhabited

/-- Inference that keeps a log. -/
abbrev Logged := StateM Log

/-- Inference that keeps a log and may fail as a whole. -/
abbrev Attempt := ExceptT Fault Logged

/-- A schema about which nothing is known. -/
def unknownSchema : Fragment := typeSchema "object"

/-- Refer to a component, noting its name. -/
def refer (base name : String) : Logged Fragment := do
  modify fun log => { log with references := log.references ++ [name] }
  return refTo base name

/-- Methods that splice an array into the parent, with its place among the arguments. -/
def mergeMethods : Table String Nat := [("mergeWhen", 1), ("mergeUnless", 1), ("merge", 0)]

/-- Methods that stand for one of their arguments, with its place. -/
def conditionalMethods : Table String Nat :=
  [("when", 1), ("unless", 1), ("whenNotNull", 0), ("whenLoaded", 1), ("whenCounted", 1)]

/-- Look a name up among methods; what cannot be a key is a fault. -/
def methodPosition? (methods : Table String Nat) : Value → Except Fault (Option Nat)
  | .str name => .ok (Table.get? methods name)
  | .arr _ => .error (.notKey .arr)
  | .obj _ => .error (.notKey .obj)
  | _ => .ok none

/-- A name that has to be a text, which `operation` is asked of. -/
def requireText (operation : String) : Value → Except Fault String
  | .str s => .ok s
  | v => .error (.noOperation v.kind operation)

/-- The schema of a method call by its name. -/
def methodSchema (method : Value) : Except Fault Fragment :=
  (requireText "startswith" method).map schemaOfMethod

/-- The key that a literal writes. -/
def keyOf : Value → Except Fault String
  | .str s => .ok s
  | .null => .ok "null"
  | .bool b => .ok (if b then "true" else "false")
  | .int n => .ok (Number.intText n)
  | .float x => .ok x.text
  | .arr _ => .error (.notKey .arr)
  | .obj _ => .error (.notKey .obj)

/-- Use a schema, or note why there is none. -/
def orUnknown (kind : String) : Except Fault Fragment → Logged Fragment
  | .ok schema => return schema
  | .error fault => do
      modify fun log =>
        { log with diagnostics := log.diagnostics ++ [.valueSkipped kind fault] }
      return unknownSchema

/-- The schema of an object made from a class: a reference for resources. -/
def creationSchema (base : String) (className : Value) : Logged Fragment :=
  match requireText "replace" className with
  | .error fault => orUnknown "ObjectCreation" (.error fault)
  | .ok name =>
      if contains (lower (ClassName.base name)) "resource" then refer base (ClassName.base name)
      else return unknownSchema

/-- The schema of a call of a class method: a reference, or a list of them. -/
def staticCallSchema (base : String) (className method : Value) : Logged Fragment :=
  match requireText "replace" className with
  | .error fault => orUnknown "StaticCall" (.error fault)
  | .ok name => do
      let name := if ClassName.base name = "" then "Resource" else ClassName.base name
      if method = .str "collection" then
        let item ← refer base name
        return [("type", .str "array"), ("items", .obj item)]
      else if method = .str "make" then refer base name
      else return unknownSchema

mutual

/-- The schema of one expression. -/
def value (base : String) : Node → Logged Fragment
  | .string v => return [("type", .str "string"), ("example", v)]
  | .int v => return [("type", .str "integer"), ("example", v)]
  | .float v => return [("type", .str "number"), ("example", v)]
  | .bool _ => return typeSchema "boolean"
  | .null => return [("type", .str "string"), ("nullable", .bool true)]
  | .property _ name =>
      orUnknown "PropertyAccess" ((requireText "endswith" name).map schemaOfProperty)
  | .call _ method arguments =>
      match methodPosition? conditionalMethods method with
      | .error fault => orUnknown "MethodCall" (.error fault)
      | .ok (some position) => argument base method position arguments
      | .ok none => orUnknown "MethodCall" (methodSchema method)
  | .conditional _ ifTrue ifFalse =>
      match ifTrue, ifFalse with
      | some node, _ => value base node
      | none, some node => value base node
      | none, none => return unknownSchema
  | .coalesce left _ => do
      let schema ← value base left
      return Table.insert schema "nullable" (.bool true)
  | .array _ => return textArray
  | .create className _ => creationSchema base className
  | .staticCall className method _ => staticCallSchema base className method
  | .variable _ | .functionCall .. | .constant .. | .unknown _ => return unknownSchema

/-- The schema of the argument at a position; of the method by its name when there is none. -/
def argument (base : String) (method : Value) : Nat → List Node → Logged Fragment
  | _, [] => orUnknown "MethodCall" (methodSchema method)
  | 0, node :: _ => value base node
  | position + 1, _ :: rest => argument base method position rest

end

mutual

/-- Write the properties of an array's items over those collected so far. -/
def collect (base : String) (done : Fragment) :
    List (Node × Option Node × Bool) → Attempt Fragment
  | [] => return done
  | (node, none, spread) :: rest => do
      let merged ← spliced base spread node
      collect base (Table.insertAll done merged) rest
  | (node, some (.string key), _) :: rest => do
      let schema ← value base node
      let name ← keyOf key
      collect base (Table.insert done name (.obj schema)) rest
  | (_, some _, _) :: rest => collect base done rest

/-- The properties that an item without a key brings in. -/
def spliced (base : String) (spread : Bool) : Node → Attempt Fragment
  | .array items => if spread then collect base [] items else return []
  | .call _ method arguments => do
      match ← (methodPosition? mergeMethods method : Except Fault (Option Nat)) with
      | some position => mergedArgument base position arguments
      | none => return []
  | _ => return []

/-- The properties of the array at a position among arguments; none when there is no array. -/
def mergedArgument (base : String) : Nat → List Node → Attempt Fragment
  | _, [] => return []
  | 0, .array items :: _ => collect base [] items
  | 0, _ :: _ => return []
  | position + 1, _ :: rest => mergedArgument base position rest

end

/-- The properties of an array. -/
def properties (base : String) (items : List Item) : Attempt Fragment := collect base [] items

/-- The schema of an array: an object with its properties. -/
def objectOfArray (base : String) (items : List Item) : Attempt Fragment := do
  let properties ← properties base items
  return [("type", .str "object"), ("properties", .obj properties)]

/-- The schema of the first array among the returned expressions. -/
def firstArray (base : String) : List Node → Attempt Fragment
  | [] => return unknownSchema
  | .array items :: _ => objectOfArray base items
  | _ :: rest => firstArray base rest

/-- The schema of a tree, before failures are noted. -/
def attempt (base : String) (tree : Tree) : Attempt Fragment :=
  if tree.collects.isTruthy then
    match requireText "replace" tree.collects with
    | .error fault => throw fault
    | .ok name => refer base (ClassName.base name)
  else firstArray base tree.returns

/-- The name of a tree in messages. -/
def Tree.shownName (tree : Tree) : String :=
  match tree.name with
  | none | some "" => "resource"
  | some name => name

/-- The schema of a tree. -/
def infer (base : String) (tree : Tree) : Logged Fragment := do
  match ← (attempt base tree).run with
  | .ok schema => return schema
  | .error fault =>
      modify fun log =>
        { log with diagnostics := log.diagnostics ++ [.shapeSkipped tree.shownName fault] }
      return unknownSchema

end RouteDoc.Shape
