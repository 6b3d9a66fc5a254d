import RouteDoc.ClassName
import RouteDoc.FileTree
import RouteDoc.Source.File
/-!
# RouteDoc.Source.Index

**Classes by name.** Namespaces are mapped to directories, so the name of a class tells which file
holds it. Of several namespaces the longest one that has the file counts.
-/

namespace RouteDoc.Source

open RouteDoc.Text

/-- The files of a code base with its map of namespaces. -/
structure SourceIndex where
  /-- The directory of the code base. -/
  root : String
  /-- Namespaces with their directories, longer ones first. -/
  namespaces : List (String × String)
  /-- The files. -/
  files : FileTree SourceFile

/-- The files of a tree that are sources; any other holds nothing. -/
def readFile (path : List String) (content : ByteArray) : SourceFile :=
  let name := path.getLast?.getD ""
  if endsWith name ".php" then .ofText name ((String.fromUTF8? content).getD "") else { name }

/-- Namespaces with one backslash at the end, longer ones first. -/
def orderNamespaces (namespaces : Table String String) : List (String × String) :=
  let closed := namespaces.map fun (name, directory) =>
    (trimBy (· = '\\') name ++ "\\", directory)
  closed.mergeSort fun a b => b.1.length ≤ a.1.length

namespace SourceIndex

/-- The index of some files. -/
def ofFiles (root : String) (namespaces : Table String String) (files : FileTree ByteArray) :
    SourceIndex :=
  { root, namespaces := orderNamespaces namespaces, files := files.map readFile }

/-- The path at which the class of a name must stand according to a namespace. -/
def pathIn? (index : SourceIndex) (name : String) (entry : String × String) : Option String :=
  if startsWith name entry.1 then
    let relative := swap '\\' '/' (drop entry.1.length name) ++ ".php"
    some (FilePath.join (FilePath.join index.root entry.2) relative)
  else none

/-- The path of the file that should hold a class, when there is such a file. -/
def locate? (index : SourceIndex) (name : String) : Option String :=
  index.namespaces.findSome? fun entry => do
    let path ← index.pathIn? (absolute name) entry
    if (index.files.read? path).isSome then some path else none

/-- The file that should hold a class. -/
def file? (index : SourceIndex) (name : String) : Option SourceFile := do
  index.files.read? (← index.locate? name)

/-- A class with the file it stands in. -/
def class? (index : SourceIndex) (name : String) : Option (SourceFile × ClassSource) := do
  let file ← index.file? name
  let found ← file.findClass? (some (ClassName.short name))
  some (file, found)

/-- An enumeration. -/
def enum? (index : SourceIndex) (name : String) : Option EnumSource := do
  let file ← index.file? name
  file.findEnum? (ClassName.short name)

end SourceIndex

end RouteDoc.Source
