import RouteDoc.Table
import RouteDoc.Text.Pieces
/-!
# RouteDoc.FileTree

**Files by path.** A program that reads files is given a tree of them, so that reading is a function.
What a tree holds of a file is left open: its bytes, or what was made of them (`FileTree.map`).

Paths are compared in a plain form, without empty parts and single dots; two dots go to the
directory above, as long as they stay inside the tree.
-/

namespace RouteDoc

namespace FilePath

/-- The parts of a path. -/
def parts (path : String) : List String :=
  (Text.split '/' path).filter fun part => part ≠ "" && part ≠ "."

/-- Whether a path starts at the root of all files. -/
def isAbsolute (path : String) : Bool := Text.startsWith path "/"

/-- A path in plain form. -/
def plain (path : String) : String :=
  let body := String.intercalate "/" (parts path)
  if isAbsolute path then "/" ++ body else if body = "" then "." else body

/-- A path below another one; an absolute path stands for itself. -/
def join (base path : String) : String :=
  if isAbsolute path then plain path else plain (base ++ "/" ++ path)

/-- The last part of a path. -/
def name (path : String) : String := (parts path).getLast?.getD ""

end FilePath

/-- Files by the parts of their paths. -/
structure FileTree (α : Type) where
  /-- The files with their content. -/
  files : Table (List String) α := []

/-- What stands at a path. -/
inductive FileEntry (α : Type) where
  /-- Nothing. -/
  | missing
  /-- A directory. -/
  | directory
  /-- A file with its content. -/
  | file (content : α)

namespace FileTree

variable {α β : Type}

/-- The tree of some files. -/
def ofList (files : List (String × α)) : FileTree α :=
  ⟨Table.ofEntries (files.map fun (path, content) => (FilePath.parts path, content))⟩

/-- Make something else of every file, which may depend on the parts of its path. -/
def map (f : List String → α → β) (t : FileTree α) : FileTree β :=
  ⟨List.map (fun e => (e.1, f e.1 e.2)) t.files⟩

/-- Whether there is a directory. -/
def hasDirectory (t : FileTree α) (parts : List String) : Bool :=
  parts.isEmpty || t.files.any fun e => parts.isPrefixOf e.1 && parts.length < e.1.length

/-- The parts of a path without steps to the directory above; `done` holds those passed, the last
first. -/
def resolve (t : FileTree α) (done : List String) : List String → Option (List String)
  | [] => some done.reverse
  | ".." :: rest => match done with
      | [] => none
      | _ :: above => if t.hasDirectory done.reverse then t.resolve above rest else none
  | part :: rest => t.resolve (part :: done) rest

/-- What stands at a path. -/
def find (t : FileTree α) (path : String) : FileEntry α :=
  if FilePath.isAbsolute path then .missing
  else match t.resolve [] (FilePath.parts path) with
    | none => .missing
    | some parts => match Table.get? t.files parts with
        | some content => .file content
        | none => if t.hasDirectory parts then .directory else .missing

/-- The content of the file at a path. -/
def read? (t : FileTree α) (path : String) : Option α :=
  match t.find path with
  | .file content => some content
  | _ => none

/-- Write a file. -/
def write (t : FileTree α) (path : String) (content : α) : FileTree α :=
  ⟨Table.insert t.files (FilePath.parts path) content⟩

end FileTree

end RouteDoc
