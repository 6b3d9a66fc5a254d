import RouteDoc.Source.Declaration
import RouteDoc.Table
import RouteDoc.Text.Pieces
import RouteDoc.Text.Word
/-!
# RouteDoc.Source.File

**Files of a code base.** A file knows its namespace and what it imports, which decides what the class
names in it mean.

* `SourceFile.ofText` reads a file; the first namespace and the last import of a name count.
* `SourceFile.resolve` completes a class name as it is written in the file.
* `SourceFile.findClass?` and `SourceFile.findEnum?` look for declarations anywhere in the file.
-/

namespace RouteDoc.Source

open RouteDoc.Text

/-! ### Imports -/

/-- Whether a character may be part of a qualified name. -/
def isQualifiedChar (c : Char) : Bool := isWord c || c = '\\'

/-- Skip white space. -/
def skipBlank (cs : List Char) : List Char := cs.dropWhile isBlank

/-- The word at the front behind white space, which must be there, and the rest. -/
def wordBehindBlank? (cs : List Char) : Option (List Char × List Char) :=
  let rest := skipBlank cs
  let word := rest.takeWhile isWord
  if rest.length = cs.length || word.isEmpty then none else some (word, rest.drop word.length)

/-- The name behind `as`; the outer result is none when something else follows. -/
def alias? (cs : List Char) : Option (Option String) :=
  if (skipBlank cs).isEmpty then some none
  else do
    let (word, rest) ← wordBehindBlank? cs
    if word.map Char.toLower ≠ ['a', 's'] then none
    else
      let (name, rest) ← wordBehindBlank? rest
      if (skipBlank rest).isEmpty then some (some (String.ofList name)) else none

/-- Read an import: the imported name, and the name it is given. -/
def importClause? (text : String) : Option (String × Option String) :=
  let cs := skipBlank text.toList
  let run (cs : List Char) : Option (String × Option String) :=
    let name := cs.takeWhile isQualifiedChar
    if name.isEmpty then none
    else (alias? (cs.drop name.length)).map fun given => (String.ofList name, given)
  match cs with
  | '\\' :: rest => (run rest).orElse fun _ => run cs
  | _ => run cs

/-- Take the backslashes at the front away. -/
def absolute (name : String) : String := trimLeftBy (· = '\\') name

/-- Add what a clause of a declaration imports. -/
def addImport (group : String) (imports : Table String String) (clause : String) :
    Table String String :=
  match importClause? clause with
  | none => imports
  | some (name, given) =>
      let full := if group = "" then name else group ++ "\\" ++ name
      Table.insert imports (given.getD (afterLast '\\' full)) (absolute full)

/-- All names that a file imports. -/
def importsOf (nodes : List Syntax) : Table String String :=
  nodes.foldl (fun imports node => match node with
    | .useDeclaration group clauses => clauses.foldl (addImport group) imports
    | _ => imports) []

/-- The first namespace of a file. -/
def namespaceOf (nodes : List Syntax) : String :=
  trimBy (· = '\\') ((nodes.findSome? fun node => match node with
    | .namespaceDeclaration name => some name
    | _ => none).getD "")

/-! ### Files -/

/-- A file of a code base. -/
structure SourceFile where
  /-- The name of the file, for messages. -/
  name : String := ""
  /-- All nodes of its syntax tree, outer ones first. -/
  nodes : List Syntax := []
  /-- Its namespace, empty when there is none. -/
  namespaceName : String := ""
  /-- The full names behind the names that it imports. -/
  imports : Table String String := []
deriving Inhabited

/-- A class of a code base. -/
structure ClassSource where
  /-- Its name without the namespace. -/
  name : String
  /-- The class it extends, as it is written. -/
  parent : Option String
  /-- The documentation before it. -/
  comment : Option String
  /-- Its text. -/
  text : String
  /-- Its members. -/
  members : List Syntax
deriving Inhabited

/-- An enumeration of a code base. -/
structure EnumSource where
  /-- Its text. -/
  text : String
  /-- Its members. -/
  members : List Syntax
deriving Inhabited

/-- A method of a class. -/
structure MethodSource where
  /-- Its parameters. -/
  parameters : List Parameter
  /-- Its defaults and statements. -/
  inner : List Syntax
deriving Inhabited

/-- The method of a name. -/
def ClassSource.method? (c : ClassSource) (name : String) : Option MethodSource :=
  c.members.findSome? fun member => match member with
    | .method own parameters inner => if own = name then some ⟨parameters, inner⟩ else none
    | _ => none

/-- All nodes of a method. -/
def MethodSource.nodes (m : MethodSource) : List Syntax := Syntax.nodesOf m.inner

/-- The expressions that a method returns, those of functions inside it included. -/
def MethodSource.returns (m : MethodSource) : List Syntax := Syntax.returnsOf m.inner

namespace SourceFile

/-- Read a file. -/
def ofText (name text : String) : SourceFile :=
  let nodes := Syntax.nodesOf (parse text.toList)
  { name, nodes, namespaceName := namespaceOf nodes, imports := importsOf nodes }

/-- Class names that are not completed. -/
def relativeNames : List String := ["self", "static", "parent"]

/-- The full name of a class that is written in the file. -/
def resolve (f : SourceFile) (name : String) : String :=
  let name := trim name
  if startsWith name "\\" then absolute name
  else
    let (head, rest) := match cut? '\\' name with
      | some (head, rest) => (head, "\\" ++ rest)
      | none => (name, "")
    match Table.get? f.imports head with
    | some full => full ++ rest
    | none =>
        if name ∈ relativeNames || f.namespaceName = "" then name
        else f.namespaceName ++ "\\" ++ name

/-- The class of a name, or the first one when no name is asked for. -/
def findClass? (f : SourceFile) (name : Option String) : Option ClassSource :=
  f.nodes.findSome? fun node => match node with
    | .classDeclaration own parent comment text members =>
        if name.all (· = own) then some ⟨own, parent, comment, text, members⟩ else none
    | _ => none

/-- The enumeration of a name. -/
def findEnum? (f : SourceFile) (name : String) : Option EnumSource :=
  f.nodes.findSome? fun node => match node with
    | .enumDeclaration own text members => if own = name then some ⟨text, members⟩ else none
    | _ => none

end SourceFile

end RouteDoc.Source
