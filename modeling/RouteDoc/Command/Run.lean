import RouteDoc.Command.Basic
import RouteDoc.Command.Database
import RouteDoc.Config.Load
import RouteDoc.Document.Format
import RouteDoc.Route.Inventory
import RouteDoc.Source.Analysis
import RouteDoc.Terminal.Table
import RouteDoc.Workflow
/-!
# RouteDoc.Command.Run

**Running commands.** A command is run in a `Workplace`: the files that it may read, the named texts of
its environment, what is typed at its prompts, the time, and what searches for patterns. Its `Outcome`
holds what it prints and the files that it writes.

* Whatever makes a command impossible is said in one message, and the command ends with status 1.
* A value that no message foresees breaks the command off (`Crash`).
* The store is read from its file before and written to it after the work.
-/

namespace RouteDoc.Command

open Text Source

/-- What a command finds when it is started. -/
structure Workplace where
  /-- The files, by paths from the working directory. -/
  files : FileTree ByteArray := {}
  /-- Named texts that stand for settings. -/
  environment : Environment := []
  /-- The lines that are typed at prompts. -/
  typed : List String := []
  /-- The time at which it is started. -/
  time : Time := default
  /-- What searches for the patterns of filters. -/
  engine : PatternEngine := Pattern.engine

/-- Why a command broke off. -/
inductive Crash where
  /-- The configuration is no text. -/
  | config (e : ConfigError)
  /-- The inventory holds a value that cannot be worked with. -/
  | inventory (e : InventoryError)
  /-- The document cannot be built. -/
  | build (e : BuildError)
  /-- A directory stands where the document is to be written. -/
  | target (path : String)
deriving DecidableEq

/-- What is said of a directory that was taken for a file. -/
def directoryMessage (path : String) : String :=
  "[Errno 21] Is a directory: " ++ quoted (FilePath.plain path)

/-- The reason in words. -/
def Crash.message : Crash → String
  | .config e => e.message
  | .inventory e => e.message
  | .build e => e.message
  | .target path => directoryMessage path

/-- The variables of the environment that stand for settings. -/
def settingVariables : List String :=
  ["OPENAPI_TITLE", "OPENAPI_VERSION", "OPENAPI_DESCRIPTION", "APP_URL", storeUrlVariable]

/-- What a command did. -/
structure Outcome where
  /-- The status with which the program ends. -/
  status : Nat := 0
  /-- What was printed. -/
  output : String := ""
  /-- The files that were written, later ones over earlier ones. -/
  written : List (String × ByteArray) := []
  /-- Why the command broke off, if it did. -/
  crash : Option Crash := none
  /-- Whether nothing was typed where a question ends the output. -/
  waits : Bool := false

/-- A step of a command, which may end it. -/
abbrev Step := Except Outcome

/-- End with a message. -/
def fail {α : Type} (text : String) (written : List (String × ByteArray) := []) : Step α :=
  .error { status := 1, output := Terminal.message text, written }

/-- Break off. -/
def crash {α : Type} (c : Crash) : Step α := .error { status := 1, crash := some c }

/-- The outcome of the last step. -/
def Outcome.ofStep : Step Outcome → Outcome
  | .ok o => o
  | .error o => o

/-! ### What commands work on -/

/-- The configuration. -/
def settings (w : Workplace) (path : Option String) : Step GeneratorConfig :=
  match GeneratorConfig.load w.environment w.files path with
  | .ok config => .ok config
  | .error .undecodableFile => crash (.config .undecodableFile)
  | .error e => fail e.message

/-- The live routes. -/
def liveRoutes (w : Workplace) (path : String) (config : GeneratorConfig) : Step (List Route) :=
  match w.files.find path with
  | .directory =>
      fail ((InventoryError.unreadableFile path).message ++ ": " ++ directoryMessage path)
  | _ => match Inventory.load w.engine (some config.routeFilters) path (w.files.read? path) with
    | .ok routes => .ok routes
    | .error e => match e with
        | .undecodableFile | .fault _ | .invalidRoute _ => crash (.inventory e)
        | e => fail e.message

/-- The URL of the store: the one that is given, configured or named by the environment. -/
def storeUrl (w : Workplace) (config : GeneratorConfig) (given : Option String) : String :=
  let usual := (Table.get? w.environment storeUrlVariable).getD defaultStoreUrl
  filledOr (filledOr usual config.databaseUrl) given

/-- Where the store is. -/
def storeLocation (w : Workplace) (config : GeneratorConfig) (given : Option String) :
    Step StoreLocation :=
  match StoreLocation.ofUrl (storeUrl w config given) with
  | .ok location => .ok location
  | .error e => fail ("Cannot open metadata store: " ++ e.message)

/-- The store of a command that needs one. -/
def neededStore (w : Workplace) (location : StoreLocation) : Step RowStore :=
  match location.open? w.files with
  | some store => .ok store
  | none => fail ("Metadata store error: " ++ unopenedMessage)

/-! ### Tables -/

/-- A table of counts. -/
def countTable (title : String) (counts : List (String × String)) : String :=
  Terminal.table title ["metric", "count"] (counts.map fun (name, n) => [name, n])

/-- A table of routes by method and path. -/
def routeTable (title : String) (routes : List (String × String)) : String :=
  if routes.isEmpty then ""
  else Terminal.table title ["method", "uri"] (routes.map fun (method, uri) => [method, uri])

/-- The method and the path of a route. -/
def routeNames (routes : List Route) : List (String × String) :=
  routes.map fun r => (r.method, r.path)

/-- The method and the path of a record. -/
def recordNames (records : List OverrideRecord) : List (String × String) :=
  records.map fun r => (r.httpMethod, r.uri)

/-- A text when a condition holds. -/
def shownIf (condition : Bool) (text : String) : String := if condition then text else ""

/-! ### Scan -/

/-- What a scan prints. -/
def scanReport (r : Workflow.ScanResult) : String :=
  let counts := r.diff.counts.map fun (name, n) => (name, Nat.repr n)
  let handlers := r.diff.new.map fun route =>
    [route.method, route.path, filledOr "-" route.handler]
  shownIf (r.cleared ≠ 0) (Terminal.message ("Cleared " ++ Nat.repr r.cleared ++ " stored routes."))
    ++ countTable "Route scan" counts
    ++ shownIf (!handlers.isEmpty)
        (Terminal.table "New routes" ["method", "uri", "handler"] handlers)
    ++ routeTable "Removed routes (run \x60sync --clean\x60 to delete)" (recordNames r.diff.removed)
    ++ Terminal.message (if r.dryRun then "Dry run: nothing was written."
        else "Saved " ++ Nat.repr r.written ++ " route records")

/-- Note the live routes. -/
def scanRoutes (w : Workplace) (o : ScanOptions) : Step Outcome := do
  let config ← settings w o.sources.config
  let routes ← liveRoutes w o.sources.routes config
  let location ← storeLocation w config o.sources.databaseUrl
  let store ← neededStore w location
  let (result, store) := Workflow.scan store routes w.time o.fresh o.dryRun
  return { output := scanReport result, written := location.written store }

/-! ### Sync -/

/-- What a user answers. -/
inductive Reply where
  /-- Yes. -/
  | yes
  /-- No. -/
  | no
  /-- Nothing at all. -/
  | none
deriving DecidableEq, Repr

/-- Ask a question until it is answered; what is shown on the way, and the answer. -/
def ask (question : String) : List String → String × Reply
  | [] => (question ++ " [y/N]: ", .none)
  | line :: rest =>
      let shown := question ++ " [y/N]: " ++ line ++ "\n"
      let word := lower (trim line)
      if word = "y" || word = "yes" then (shown, .yes)
      else if word = "n" || word = "no" || word = "" then (shown, .no)
      else
        let (more, reply) := ask question rest
        (shown ++ "Error: invalid input\n" ++ more, reply)

/-- What a comparison prints once it is done. -/
def syncReport (clean : Bool) (r : Workflow.SyncReport) : String :=
  shownIf (r.securitySchemesWritten ≠ 0)
      (Terminal.message ("Stored " ++ Nat.repr r.securitySchemesWritten ++ " security schemes"))
    ++ shownIf (!clean)
        (routeTable "Orphaned routes (use --clean to delete)" (recordNames r.orphaned))
    ++ shownIf (r.deleted ≠ 0)
        (Terminal.message ("Deleted " ++ Nat.repr r.deleted ++ " orphaned route records"))
    ++ routeTable "Live routes missing from the store (run \x60scan\x60)" (routeNames r.missing)
    ++ routeTable "Routes without summary or description" (recordNames r.undocumented)
    ++ countTable "Metadata store" (r.summary.map fun (name, n) => (name, Number.intText n))

/-- Compare the live routes with the store. -/
def syncRoutes (w : Workplace) (o : SyncOptions) : Step Outcome := do
  let config ← settings w o.sources.config
  let routes ← liveRoutes w o.sources.routes config
  let location ← storeLocation w config o.sources.databaseUrl
  let store ← neededStore w location
  let compare (agreed : Bool) : Workflow.SyncReport × RowStore :=
    Workflow.sync config store routes o.clean o.initSecurity fun _ => agreed
  let orphans := (compare false).1.orphaned
  let asks := o.clean && !orphans.isEmpty
  let question := "Delete " ++ Nat.repr orphans.length ++ " orphaned route records?"
  let (prompt, reply) := if asks && !o.yes then ask question w.typed else ("", .yes)
  let shown := shownIf asks (routeTable "Orphaned routes" (recordNames orphans)) ++ prompt
  let (report, store) := compare (reply = .yes)
  let written := location.written store
  if reply = .none then return { status := 1, output := shown, written, waits := true }
  else return { output := shown ++ syncReport o.clean report, written }

/-! ### Generate -/

/-- The store of a command that can do without one. -/
def optionalStore (w : Workplace) (config : GeneratorConfig) (given : Option String) :
    Option (StoreLocation × RowStore) :=
  match StoreLocation.ofUrl (storeUrl w config given) with
  | .ok location => (location.open? w.files).map fun store => (location, store)
  | .error _ => none

/-- What the analysis of the sources keeps, and nothing when they are left alone. -/
def sourceAnalyzer (w : Workplace) (config : GeneratorConfig) (skip : Bool) :
    Analyzer ResourceCache :=
  if skip then fun _ => return .ok {}
  else analyzer config (.ofFiles config.source.root config.source.namespaces w.files)

/-- What is said when the store of a document does not answer. -/
def storeMissing : String :=
  Terminal.message "Metadata store unavailable; documenting auto-detected data only."

/-- What generation prints when it writes a file. -/
def generateReport (target : String) (r : Workflow.GenerateResult) : String :=
  let incomplete := r.diagnostics.length
  countTable "OpenAPI document" (r.statistics.map fun (name, n) => (name, Nat.repr n))
    ++ shownIf (incomplete ≠ 0) (Terminal.message
        (Nat.repr incomplete ++ " routes produced analysis diagnostics (use -v)."))
    ++ Terminal.message ("Wrote " ++ target)

/-- Generate a document. -/
def generateDocument (w : Workplace) (o : GenerateOptions) : Step Outcome := do
  let config ← settings w o.sources.config
  let name := lower (filledOr config.output.format o.format)
  let format ← match Format.ofName? name with
    | some format => if name = "yml" then fail (unsupported name) else pure format
    | none => fail (unsupported name)
  let routes ← liveRoutes w o.sources.routes config
  let store := if o.withoutStore then none else optionalStore w config o.sources.databaseUrl
  let written := (store.map fun (location, store) => location.written store).getD []
  let analyze := sourceAnalyzer w config o.withoutAnalysis
  match ((Workflow.generate config routes (store.map Prod.snd) analyze).run []).1 with
  | .error e => .error { status := 1, written, crash := some (.build e) }
  | .ok result =>
      let text := format.render (.obj result.document)
      if o.toTerminal then return { output := text, written }
      else
        let target := FilePath.plain (filledOr config.output.path o.output)
        let head := shownIf (!o.withoutStore && !result.storeAvailable) storeMissing
        match w.files.find target with
        | .directory => .error { status := 1, output := head, written, crash := some (.target target) }
        | _ =>
            let written := written ++ [(target, text.toUTF8)]
            return { output := head ++ generateReport target result, written }
where
  /-- What is said of an unknown format. -/
  unsupported (name : String) : String :=
    "Unsupported format: " ++ name ++ " (expected yaml or json)"

/-! ### Stores -/

/-- Prepare a store. -/
def migrateStore (w : Workplace) (s : Sources) : Step Outcome := do
  let config ← settings w s.config
  let url := storeUrl w config s.databaseUrl
  match StoreLocation.ofUrl url with
  | .error e => fail ("Migration failed: " ++ e.message)
  | .ok location => match location.open? w.files with
      | none => fail ("Migration failed: " ++ unopenedMessage)
      | some store =>
          return { output := Terminal.message ("Database migrated (" ++ url ++ ")"),
                   written := location.written store }

/-- Ask whether a store answers. -/
def storeStatus (w : Workplace) (s : Sources) : Step Outcome := do
  let config ← settings w s.config
  let location ← storeLocation w config s.databaseUrl
  if (location.open? w.files).isSome then
    return { output := Terminal.message "Metadata store: reachable" }
  else return { status := 1, output := Terminal.message "Metadata store: unreachable" }

/-! ### The program -/

/-- Run a command. -/
def run (w : Workplace) (c : Command) : Outcome :=
  .ofStep <| match c with
    | .scan o => scanRoutes w o
    | .generate o => generateDocument w o
    | .sync o => syncRoutes w o
    | .migrate s => migrateStore w s
    | .status s => storeStatus w s

/-- How the program is used. -/
def usage : String :=
  "Usage: routedoc [OPTIONS] COMMAND [ARGS]...\n\n"
    ++ "Commands:\n"
    ++ "  scan        Record the live routes in the metadata store.\n"
    ++ "  generate    Generate the OpenAPI document from the route inventory.\n"
    ++ "  sync        Compare the live routes with the metadata store.\n"
    ++ "  db migrate  Prepare the metadata store.\n"
    ++ "  db status   Check that the metadata store answers.\n"

/-- Run the program with its arguments. -/
def runArguments (w : Workplace) (arguments : List String) : Outcome :=
  match Request.parse arguments with
  | some (.run c) => run w c
  | some .help => { output := usage }
  | none => { status := 2 }

end RouteDoc.Command
