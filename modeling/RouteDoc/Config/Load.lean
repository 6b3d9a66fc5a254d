import RouteDoc.Config.Basic
import RouteDoc.FileTree
import RouteDoc.Yaml.Reader
/-!
# RouteDoc.Config.Load

**Configuration files.** A configuration is a YAML mapping; without a path, a file of the usual name
is read when there is one, and the defaults stand otherwise. An empty file is an empty mapping.
-/

namespace RouteDoc

/-- Why there is no configuration. -/
inductive ConfigError where
  /-- There is no such file. -/
  | missingFile (path : String)
  /-- The file cannot be read, or is not YAML. -/
  | unreadableFile (path : String)
  /-- The file is not text. -/
  | undecodableFile
  /-- The file holds no mapping. -/
  | notAMapping (path : String)
  /-- The mapping makes no configuration. -/
  | invalid (path : String) (issues : List Issue)
deriving DecidableEq

/-- The error in words. -/
def ConfigError.message : ConfigError → String
  | .missingFile path => "Config file not found: " ++ path
  | .unreadableFile path => "Could not read " ++ path
  | .undecodableFile => ""
  | .notAMapping path => path ++ " must contain a mapping at the top level"
  | .invalid path issues => "Invalid configuration in " ++ path ++ ": " ++ issueText issues

/-- Whether a document counts as empty. -/
def Datum.isVoid : Datum → Bool
  | .map es => es.isEmpty
  | .arr ds => ds.isEmpty
  | .date _ => false
  | d => !d.toValue.isTruthy

/-- A text with every line break as a new line. -/
def plainLines : List Char → List Char
  | '\r' :: '\n' :: rest => '\n' :: plainLines rest
  | '\r' :: rest => '\n' :: plainLines rest
  | c :: rest => c :: plainLines rest
  | [] => []

namespace GeneratorConfig

/-- The file that is read when none is named. -/
def defaultFile : String := "openapi-synth.yaml"

/-- The configuration in a document. -/
def ofDatum (env : Environment) (path : String) (d : Datum) : Except ConfigError GeneratorConfig :=
  let d := if d.isVoid then .map [] else d
  match d with
  | .map _ => match check env d with
      | .valid config => .ok config
      | .invalid issues => .error (.invalid path issues)
  | _ => .error (.notAMapping path)

/-- The configuration in the bytes of a file. -/
def ofBytes (env : Environment) (path : String) (content : ByteArray) :
    Except ConfigError GeneratorConfig :=
  match String.fromUTF8? content with
  | none => .error .undecodableFile
  | some s => match Yaml.read? (String.ofList (plainLines s.toList)) with
      | none => .error (.unreadableFile path)
      | some d => ofDatum env path d

/-- Load a configuration from a named file, or from the usual one. -/
def load (env : Environment) (files : FileTree ByteArray) (path : Option String) :
    Except ConfigError GeneratorConfig :=
  let file := FilePath.plain (path.getD defaultFile)
  match files.find file, path with
  | .missing, none => .ok (ofEnvironment env)
  | .missing, some _ => .error (.missingFile file)
  | .directory, _ => .error (.unreadableFile file)
  | .file content, _ => ofBytes env file content

end GeneratorConfig

end RouteDoc
