import RouteDoc.Yaml.Scalar
/-!
# RouteDoc.Yaml.Writer

**Writing YAML.** Objects and lists are laid out over lines, two blanks deeper at each level, with
the lists of an object on the level of the object itself; empty ones stay on one line.

* A key that is empty, long or of several lines stands behind a question mark, and its value on a
  line of its own.
* A value that is no list and no object fills the whole text together with an end mark, unless it
  needs quotes.
-/

namespace RouteDoc.Yaml

/-- The text of a number with a fraction: an exponent needs a point before it. -/
def numberText (x : Binary64) : String :=
  if x.isNaN then ".nan"
  else if x.isInfinite then (if x.isNegative then "-.inf" else ".inf")
  else
    let text := x.text
    if text.toList.contains '.' then text
    else match Text.cut? 'e' text with
      | some (digits, exponent) => digits ++ ".0e" ++ exponent
      | none => text

/-- The greatest length of a key that needs no question mark. -/
def simpleKeyLength : Nat := 122

/-- Whether a key needs no question mark. -/
def isSimpleKey (key : String) : Bool :=
  let cs := key.toList
  !cs.isEmpty && !cs.any isBreak && cs.length ≤ simpleKeyLength

/-- Where a value is put. -/
inductive Place where
  /-- The value is the whole text. -/
  | whole
  /-- Behind a mark at an indentation. -/
  | mark (indent : Nat)
  /-- Behind a key at an indentation, with its colon before a column. -/
  | key (indent column : Nat)

namespace Place

/-- A new line and the blanks of an indentation. -/
def line (indent : Nat) : String := String.ofList (newline indent)

/-- What stands before a scalar. -/
def scalarLead : Place → String
  | .whole => ""
  | .mark _ | .key .. => " "

/-- The indentation of the lines of a scalar behind the first one. -/
def scalarIndent : Place → Nat
  | .whole => 2
  | .mark indent | .key indent _ => indent + 2

/-- The column of a scalar. -/
def scalarColumn : Place → Nat
  | .whole => 0
  | .mark indent => indent + 2
  | .key _ column => column + 1

/-- The indentation of a list. -/
def listIndent : Place → Nat
  | .whole => 0
  | .mark indent => indent + 2
  | .key indent _ => indent

/-- What stands before a list. -/
def listLead : Place → String
  | .whole => ""
  | .mark _ => " "
  | .key indent _ => line indent

/-- The indentation of an object. -/
def objectIndent : Place → Nat
  | .whole => 0
  | .mark indent | .key indent _ => indent + 2

/-- What stands before an object. -/
def objectLead : Place → String
  | .whole => ""
  | .mark _ => " "
  | .key indent _ => line (indent + 2)

end Place

/-- A text at a place. -/
def strText (place : Place) (s : String) : String :=
  String.ofList (Lines.scalar ⟨place.scalarIndent, true⟩ place.scalarColumn s)

/-- The text of a key that needs no question mark. -/
def keyText (indent : Nat) (key : String) : String :=
  String.ofList (Lines.scalar ⟨indent + 2, false⟩ indent key)

/-- What stands before an entry or item: nothing before the first one. -/
def separator (first : Bool) (indent : Nat) : String := if first then "" else Place.line indent

mutual

/-- A value at a place. -/
def valueText (place : Place) : Value → String
  | .null => place.scalarLead ++ "null"
  | .bool b => place.scalarLead ++ (if b then "true" else "false")
  | .int n => place.scalarLead ++ Number.intText n
  | .float x => place.scalarLead ++ numberText x
  | .str s => place.scalarLead ++ strText place s
  | .arr items =>
      if items.isEmpty then place.scalarLead ++ "[]"
      else place.listLead ++ itemsText true place.listIndent items
  | .obj entries =>
      if entries.isEmpty then place.scalarLead ++ "\x7b\x7d"
      else place.objectLead ++ entriesText true place.objectIndent entries

/-- The items of a list. -/
def itemsText (first : Bool) (indent : Nat) : List Value → String
  | [] => ""
  | v :: vs =>
      separator first indent ++ "-" ++ valueText (.mark indent) v ++ itemsText false indent vs

/-- The entries of an object. -/
def entriesText (first : Bool) (indent : Nat) : List (String × Value) → String
  | [] => ""
  | (k, v) :: es =>
      separator first indent
        ++ (if isSimpleKey k then
              let key := keyText indent k
              key ++ ":" ++ valueText (.key indent (indent + key.toList.length + 1)) v
            else
              "? " ++ strText (.mark indent) k ++ Place.line indent ++ ":"
                ++ valueText (.mark indent) v)
        ++ entriesText false indent es

end

/-- Whether a value by itself needs an end mark: a scalar without quotes does. -/
def needsEnd : Value → Bool
  | .arr _ | .obj _ => false
  | .str s => Style.of s = .plain
  | _ => true

/-- A value as a text that ends with a new line. -/
def render (v : Value) : String :=
  valueText .whole v ++ "\n" ++ (if needsEnd v then "...\n" else "")

end RouteDoc.Yaml
