import RouteDoc.Text.Pieces
/-!
# RouteDoc.Command.Basic

**Commands and their arguments.** `Request.parse` reads the arguments of the program.

* An option is a word behind two dashes or a letter behind one; letters of options without a value may
  stand together.
* The value of an option is the next argument, or what stands behind an equals sign or the letter. Of
  equal options the last one counts.
-/

namespace RouteDoc

/-- What a command works on. -/
structure Sources where
  /-- The file of the inventory. -/
  routes : String := "routes.json"
  /-- The file of the configuration. -/
  config : Option String := none
  /-- The store. -/
  databaseUrl : Option String := none
deriving DecidableEq, Repr, Inhabited

/-- How a document is generated. -/
structure GenerateOptions where
  /-- What the command works on. -/
  sources : Sources := {}
  /-- The file of the document. -/
  output : Option String := none
  /-- The format of the document. -/
  format : Option String := none
  /-- Whether the document is printed. -/
  toTerminal : Bool := false
  /-- Whether stored documentation is ignored. -/
  withoutStore : Bool := false
  /-- Whether the sources are left alone. -/
  withoutAnalysis : Bool := false
deriving DecidableEq, Repr, Inhabited

/-- How routes are noted. -/
structure ScanOptions where
  /-- What the command works on. -/
  sources : Sources := {}
  /-- Whether all records are removed first. -/
  fresh : Bool := false
  /-- Whether nothing is written. -/
  dryRun : Bool := false
deriving DecidableEq, Repr, Inhabited

/-- How inventory and store are compared. -/
structure SyncOptions where
  /-- What the command works on. -/
  sources : Sources := {}
  /-- Whether records of routes that are gone are deleted. -/
  clean : Bool := false
  /-- Whether that needs no confirmation. -/
  yes : Bool := false
  /-- Whether the configured security schemes are stored. -/
  initSecurity : Bool := false
deriving DecidableEq, Repr, Inhabited

/-- A command of the program. -/
inductive Command where
  /-- Note the live routes. -/
  | scan (o : ScanOptions)
  /-- Generate a document. -/
  | generate (o : GenerateOptions)
  /-- Compare routes and store. -/
  | sync (o : SyncOptions)
  /-- Prepare a store. -/
  | migrate (s : Sources)
  /-- Ask whether a store answers. -/
  | status (s : Sources)
deriving DecidableEq, Repr

/-- What the arguments of the program ask for. -/
inductive Request where
  /-- A command. -/
  | run (c : Command)
  /-- How the program is used. -/
  | help
deriving DecidableEq, Repr

/-! ### Options -/

/-- An option of a command. -/
structure OptionName where
  /-- The word of the option. -/
  long : String
  /-- Its letter. -/
  short : Option Char := none
  /-- Whether it has a value. -/
  hasValue : Bool := false
deriving DecidableEq, Repr

/-- Options by their words, with the values of those that have one. -/
abbrev OptionValues := List (String × String)

/-- The option that asks for help. -/
def helpOption : OptionName := { long := "help", short := some 'h' }

/-- Find the option of a word. -/
def OptionName.ofWord? (known : List OptionName) (word : String) : Option OptionName :=
  known.find? (·.long = word)

/-- Find the option of a letter. -/
def OptionName.ofLetter? (known : List OptionName) (letter : Char) : Option OptionName :=
  known.find? (·.short = some letter)

/-- Read the letters of an argument; the last one may need the next argument, which is taken from the
rest. -/
def readLetters? (known : List OptionName) (done : OptionValues) :
    List Char → List String → Option (OptionValues × List String)
  | [], rest => some (done, rest)
  | letter :: letters, rest => match OptionName.ofLetter? known letter with
      | none => none
      | some o =>
          if !o.hasValue then readLetters? known ((o.long, "") :: done) letters rest
          else if !letters.isEmpty then some ((o.long, String.ofList letters) :: done, rest)
          else match rest with
            | value :: rest => some ((o.long, value) :: done, rest)
            | [] => none

/-- Read one argument that starts with a dash, with its value. -/
def readOption? (known : List OptionName) (done : OptionValues) (argument : String)
    (rest : List String) : Option (OptionValues × List String) :=
  match argument.toList with
  | '-' :: '-' :: word =>
      let (name, value) := match Text.cut? '=' (String.ofList word) with
        | some (name, value) => (name, some value)
        | none => (String.ofList word, none)
      match OptionName.ofWord? known name, value with
      | none, _ => none
      | some o, some value => if o.hasValue then some ((name, value) :: done, rest) else none
      | some o, none =>
          if !o.hasValue then some ((name, "") :: done, rest)
          else match rest with
            | value :: rest => some ((name, value) :: done, rest)
            | [] => none
  | '-' :: letters => readLetters? known done letters rest
  | _ => none

/-- Read options up to the first argument that is none or the two dashes that end them; the last option
comes first. -/
def readOptions? (known : List OptionName) (done : OptionValues) :
    Nat → List String → Option (OptionValues × List String)
  | 0, rest => some (done, rest)
  | fuel + 1, argument :: rest =>
      if argument = "--" then some (done, rest)
      else if Text.startsWith argument "-" && argument ≠ "-" then do
        let (done, rest) ← readOption? known done argument rest
        readOptions? known done fuel rest
      else some (done, argument :: rest)
  | _, [] => some (done, [])

/-! ### Commands -/

/-- Options of the program itself. -/
def programOptions : List OptionName :=
  [helpOption, { long := "verbose", short := some 'v' }]

/-- Options for what a command works on, the inventory apart. -/
def storeOptions : List OptionName :=
  [helpOption, { long := "config", short := some 'c', hasValue := true },
    { long := "database-url", hasValue := true }]

/-- Options for what a command works on. -/
def sourceOptions : List OptionName :=
  { long := "routes", short := some 'r', hasValue := true } :: storeOptions

/-- Options of scans. -/
def scanOptions : List OptionName := sourceOptions ++ [{ long := "fresh" }, { long := "dry-run" }]

/-- Options of generation. -/
def generateOptions : List OptionName :=
  sourceOptions ++
    [ { long := "output", short := some 'o', hasValue := true },
      { long := "format", short := some 'f', hasValue := true }, { long := "stdout" },
      { long := "no-store" }, { long := "no-analysis" } ]

/-- Options of comparisons. -/
def syncOptions : List OptionName :=
  sourceOptions ++
    [{ long := "clean" }, { long := "yes", short := some 'y' }, { long := "init-security" }]

/-- Options of migrations. -/
def migrateOptions : List OptionName := storeOptions ++ [{ long := "ini", hasValue := true }]

/-- The value of an option. -/
def valueOf? (vs : OptionValues) (name : String) : Option String :=
  (vs.find? (·.1 = name)).map Prod.snd

/-- Whether an option is given. -/
def isGiven (vs : OptionValues) (name : String) : Bool := (valueOf? vs name).isSome

/-- What a command works on according to its options. -/
def Sources.ofValues (vs : OptionValues) : Sources :=
  { routes := (valueOf? vs "routes").getD "routes.json", config := valueOf? vs "config",
    databaseUrl := valueOf? vs "database-url" }

/-- Read the options of a command, which takes no other arguments. -/
def commandOf? (known : List OptionName) (make : OptionValues → Command)
    (arguments : List String) : Option Request :=
  match readOptions? known [] (arguments.length + 1) arguments with
  | some (vs, rest) =>
      if isGiven vs "help" then some .help
      else if rest.isEmpty then some (.run (make vs)) else none
  | none => none

/-- Read a command with its options. -/
def namedCommand? : List String → Option Request
  | "scan" :: rest => commandOf? scanOptions (fun vs => .scan
      { sources := .ofValues vs, fresh := isGiven vs "fresh", dryRun := isGiven vs "dry-run" }) rest
  | "generate" :: rest => commandOf? generateOptions (fun vs => .generate
      { sources := .ofValues vs, output := valueOf? vs "output", format := valueOf? vs "format",
        toTerminal := isGiven vs "stdout", withoutStore := isGiven vs "no-store",
        withoutAnalysis := isGiven vs "no-analysis" }) rest
  | "sync" :: rest => commandOf? syncOptions (fun vs => .sync
      { sources := .ofValues vs, clean := isGiven vs "clean", yes := isGiven vs "yes",
        initSecurity := isGiven vs "init-security" }) rest
  | "db" :: rest => match readOptions? [helpOption] [] (rest.length + 1) rest with
      | some (vs, rest) =>
          if isGiven vs "help" then some .help
          else match rest with
            | "migrate" :: rest => commandOf? migrateOptions (fun vs => .migrate (.ofValues vs)) rest
            | "status" :: rest => commandOf? storeOptions (fun vs => .status (.ofValues vs)) rest
            | _ => none
      | none => none
  | _ => none

/-- Read the arguments of the program; nothing when they make no sense. -/
def Request.parse (arguments : List String) : Option Request :=
  match readOptions? programOptions [] (arguments.length + 1) arguments with
  | some (vs, rest) => if isGiven vs "help" then some .help else namedCommand? rest
  | none => none

end RouteDoc
