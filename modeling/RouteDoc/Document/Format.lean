import RouteDoc.Json.Writer
import RouteDoc.Text.Quoted
import RouteDoc.Yaml.Writer
/-!
# RouteDoc.Document.Format

**The forms in which a document is written**: JSON and YAML, the latter under two names.
-/

namespace RouteDoc

/-- A form of a document. -/
inductive Format where
  | json | yaml
deriving DecidableEq, Repr

namespace Format

/-- The form of a name. -/
def ofName? : String → Option Format
  | "json" => some .json
  | "yaml" => some .yaml
  | "yml" => some .yaml
  | _ => none

/-- A value in a form. -/
def render (v : Value) : Format → String
  | .json => Json.render v
  | .yaml => Yaml.render v

/-- What is said about a name that stands for no form. -/
def unsupportedMessage (name : Value) : String := "Unsupported output format: " ++ name.text

/-- A value in the form of a name, or what is said when the name stands for none. -/
def renderNamed (v name : Value) : Except String String :=
  match name.str?.bind ofName? with
  | some format => .ok (format.render v)
  | none => .error (unsupportedMessage name)

end Format

end RouteDoc
