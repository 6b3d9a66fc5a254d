import RouteDoc.Command.Run
/-!
# RouteDoc.Main

**The program.** It reads the files below the working directory, runs one command on them, prints what
the command prints and writes what it writes.

A question is asked by running the command up to it: what was printed so far ends with the question,
and the command is run again with one more line that was typed. Nothing is written before the last run.
-/

namespace RouteDoc.Main

open Command

/-- The files at and below a directory's entry, by paths from the working directory. Hidden files are
left out. -/
partial def filesAt (above : String) (entry : IO.FS.DirEntry) : IO (List (String × ByteArray)) := do
  let path := above ++ entry.fileName
  if Text.startsWith entry.fileName "." then return []
  else if ← entry.path.isDir then
    let below ← (← entry.path.readDir).toList.mapM (filesAt (path ++ "/"))
    return below.flatten
  else return [(path, ← IO.FS.readBinFile path)]

/-- The files below the working directory. -/
def allFiles : IO (FileTree ByteArray) := do
  let entries ← (← IO.currentDir).readDir
  return .ofList (← entries.toList.mapM (filesAt "")).flatten

/-- The variables of the environment that stand for settings, as far as they are set. -/
def environment : IO Environment :=
  settingVariables.filterMapM fun name => do
    return (← IO.getEnv name).map fun value => (name, value)

/-- The time in seconds since 1970, told by a file that is made for it. -/
def now : IO Time := do
  let (_, path) ← IO.FS.createTempFile
  let seconds := (← path.metadata).modified.sec
  IO.FS.removeFile path
  return ⟨toString seconds⟩

/-- Write a file and make the directories above it. -/
def write (path : String) (content : ByteArray) : IO Unit := do
  let above := String.intercalate "/" (FilePath.parts path).dropLast
  if above ≠ "" then IO.FS.createDirAll (if FilePath.isAbsolute path then "/" ++ above else above)
  IO.FS.writeBinFile path content

/-- Run a command; `shown` characters of what it prints are on the terminal already. -/
partial def runShown (arguments : List String) (w : Workplace) (shown : Nat) : IO Outcome := do
  let outcome := runArguments w arguments
  IO.print (String.ofList (outcome.output.toList.drop shown))
  (← IO.getStdout).flush
  if outcome.waits then
    let line ← (← IO.getStdin).getLine
    if line.isEmpty then return outcome
    else
      let line := Text.trimRightBy (fun c => c = '\n' || c = '\r') line
      let shown := outcome.output.length + line.length + 1
      runShown arguments { w with typed := w.typed ++ [line] } shown
  else return outcome

/-- Run the command that the arguments ask for. -/
def run (arguments : List String) : IO UInt32 := do
  let w : Workplace := { files := ← allFiles, environment := ← environment, time := ← now }
  let outcome ← runShown arguments w 0
  for (path, content) in outcome.written do write path content
  if let some c := outcome.crash then IO.eprintln c.message
  if (Request.parse arguments).isNone then IO.eprint usage
  return outcome.status.toUInt32

end RouteDoc.Main

/-- The program. -/
def main (arguments : List String) : IO UInt32 := RouteDoc.Main.run arguments
