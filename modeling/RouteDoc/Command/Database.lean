import RouteDoc.FileTree
import RouteDoc.Store.File
import RouteDoc.Text.Word
/-!
# RouteDoc.Command.Database

**Where a store is kept.** A URL names the file of a store, or a store in memory that is gone after the
command.

* `StoreLocation.ofUrl` reads a URL; `StoreUrlError` says why one cannot be used.
* `StoreLocation.open?` opens the store there. That fails when there is no directory for the file.
-/

namespace RouteDoc

open Text

/-- Why a URL names no store. -/
inductive StoreUrlError where
  /-- It is no URL. -/
  | malformed
  /-- There is no store of that kind. -/
  | unknownKind (kind : String)
  /-- Stores of that kind are not supported. -/
  | notAsynchronous
deriving DecidableEq, Repr

/-- The error in words. -/
def StoreUrlError.message : StoreUrlError → String
  | .malformed => "Could not parse SQLAlchemy URL from given URL string"
  | .unknownKind kind => "Can't load plugin: sqlalchemy.dialects:" ++ swap '+' '.' kind
  | .notAsynchronous =>
      "The asyncio extension requires an async driver to be used. The loaded 'pysqlite' is not async."

/-- What is said of a file that cannot be opened. -/
def unopenedMessage : String :=
  "(sqlite3.OperationalError) unable to open database file\n"
    ++ "(Background on this error at: https://sqlalche.me/e/20/e3q8)"

/-- Where a store is. -/
inductive StoreLocation where
  /-- In memory. -/
  | memory
  /-- In a file. -/
  | file (path : String)
deriving DecidableEq, Repr

/-- The URL that is used when none is given. -/
def defaultStoreUrl : String := "sqlite+aiosqlite:///openapi_metadata.db"

/-- The variable that names a store for all commands. -/
def storeUrlVariable : String := "OPENAPI_SYNTH_DATABASE_URL"

/-- The parts of a URL: its kind and what follows the slashes. -/
def urlParts? : List Char → List Char → Option (List Char × List Char)
  | kind, ':' :: '/' :: '/' :: rest => if kind.isEmpty then none else some (kind.reverse, rest)
  | kind, c :: rest => if isWord c || c = '+' then urlParts? (c :: kind) rest else none
  | _, [] => none

namespace StoreLocation

/-- The store that a URL names. -/
def ofUrl (url : String) : Except StoreUrlError StoreLocation :=
  match urlParts? [] url.toList with
  | none => .error .malformed
  | some (kind, rest) =>
      let kind := String.ofList kind
      if kind = "sqlite" || kind = "sqlite+pysqlite" then .error .notAsynchronous
      else if kind ≠ "sqlite+aiosqlite" then .error (.unknownKind kind)
      else
        let path := String.ofList ((rest.drop 1).takeWhile (· ≠ '?'))
        .ok (if path = "" || path = ":memory:" then .memory else .file path)

/-- Open a store; one that is not there yet is empty. -/
def open? (files : FileTree ByteArray) : StoreLocation → Option RowStore
  | .memory => some {}
  | .file path => match files.find path with
      | .file content => RowStore.decode? content
      | .directory => none
      | .missing =>
          let above := (FilePath.parts path).dropLast
          if FilePath.isAbsolute path || files.hasDirectory above then some {} else none

/-- What has to be written for a store to be found again. -/
def written (s : RowStore) : StoreLocation → List (String × ByteArray)
  | .memory => []
  | .file path => [(path, s.encode)]

end StoreLocation

end RouteDoc
