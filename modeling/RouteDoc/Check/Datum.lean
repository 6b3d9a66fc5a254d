import RouteDoc.Text.Quoted
/-!
# RouteDoc.Check.Datum

**Documents as they were read.** A YAML document holds a little more than the values that the
library works with: dates, and keys that are no texts. `Datum` keeps both until the document has
been checked; `Datum.toValue` then gives the plain value, with each key as text.
-/

namespace RouteDoc

/-- A key of a mapping. -/
inductive Key where
  /-- A text. -/
  | str (s : String)
  /-- An integer. -/
  | int (n : Int)
  /-- A truth value. -/
  | bool (b : Bool)
  /-- Another number. -/
  | float (x : Binary64)
  /-- No value. -/
  | null
  /-- A date or a time, as it was written. -/
  | date (s : String)
deriving DecidableEq, Inhabited

/-- A document as it was read. -/
inductive Datum where
  /-- No value. -/
  | null
  /-- True or false. -/
  | bool (b : Bool)
  /-- An integer. -/
  | int (n : Int)
  /-- Another number. -/
  | float (x : Binary64)
  /-- A text. -/
  | str (s : String)
  /-- A date or a time, as it was written. -/
  | date (s : String)
  /-- A list. -/
  | arr (items : List Datum)
  /-- A mapping. -/
  | map (entries : List (Key × Datum))
deriving Inhabited

/-- A key as it is named in the place of an issue. -/
def Key.place : Key → String
  | .str s => s
  | .int n => Number.intText n
  | .bool b => if b then "True" else "False"
  | .float x => x.text
  | .null => "None"
  | .date s => s

/-- A key as the name of an entry. -/
def Key.name : Key → String
  | .str s => s
  | .int n => Number.intText n
  | .bool b => if b then "true" else "false"
  | .float x => x.text
  | .null => "null"
  | .date s => s

/-- A key as a document of its own. -/
def Key.toDatum : Key → Datum
  | .str s => .str s
  | .int n => .int n
  | .bool b => .bool b
  | .float x => .float x
  | .null => .null
  | .date s => .date s

namespace Datum

mutual

/-- A value as a document. -/
def ofValue : Value → Datum
  | .null => .null
  | .bool b => .bool b
  | .int n => .int n
  | .float x => .float x
  | .str s => .str s
  | .arr items => .arr (ofItems items)
  | .obj entries => .map (ofEntries entries)

/-- Values as documents. -/
def ofItems : List Value → List Datum
  | [] => []
  | v :: rest => ofValue v :: ofItems rest

/-- Entries as entries of a document. -/
def ofEntries : List (String × Value) → List (Key × Datum)
  | [] => []
  | (k, v) :: rest => (.str k, ofValue v) :: ofEntries rest

end

mutual

/-- A document as a plain value. -/
def toValue : Datum → Value
  | .null => .null
  | .bool b => .bool b
  | .int n => .int n
  | .float x => .float x
  | .str s => .str s
  | .date s => .str s
  | .arr items => .arr (toItems items)
  | .map entries => .obj (toEntries entries)

/-- Documents as plain values. -/
def toItems : List Datum → List Value
  | [] => []
  | d :: rest => toValue d :: toItems rest

/-- Entries of a document as entries of a plain object. -/
def toEntries : List (Key × Datum) → List (String × Value)
  | [] => []
  | (k, d) :: rest => (k.name, toValue d) :: toEntries rest

end

end Datum

end RouteDoc
