import RouteDoc.Number.Numeral
import RouteDoc.Number.Shortest
import RouteDoc.Text.Printable
import RouteDoc.Value
/-!
# RouteDoc.Text.Quoted

**How values are shown in messages.** A text stands in single quotes, or in double quotes when it
holds a single quote and no double one; what has no visible form is shown by its number. Lists and
objects show their parts in the same way, with a comma and a blank between them.
-/

namespace RouteDoc.Text

/-- A hexadecimal number of at least the given width. -/
def hexText (width n : Nat) : List Char :=
  let ds := Nat.toDigits 16 n
  List.replicate (width - ds.length) '0' ++ ds

/-- A character between the given quotes. -/
def quotedChar (quote c : Char) : List Char :=
  if c = quote || c = '\\' then ['\\', c]
  else if c = '\n' then ['\\', 'n']
  else if c = '\r' then ['\\', 'r']
  else if c = '\t' then ['\\', 't']
  else if isPrintable c then [c]
  else if c.toNat < 0x100 then '\\' :: 'x' :: hexText 2 c.toNat
  else if c.toNat < 0x10000 then '\\' :: 'u' :: hexText 4 c.toNat
  else '\\' :: 'U' :: hexText 8 c.toNat

/-- A text between quotes. -/
def quoted (s : String) : String :=
  let cs := s.toList
  let quote := if '\'' ∈ cs ∧ '"' ∉ cs then '"' else '\''
  String.ofList (quote :: cs.flatMap (quotedChar quote) ++ [quote])

end RouteDoc.Text

namespace RouteDoc.Value

open RouteDoc.Text

mutual

/-- A value as it is shown inside messages. -/
def quoted : Value → String
  | .null => "None"
  | .bool b => if b then "True" else "False"
  | .int n => Number.intText n
  | .float x => x.text
  | .str s => Text.quoted s
  | .arr [] => "[]"
  | .arr (v :: vs) => "[" ++ quoted v ++ quotedItems vs ++ "]"
  | .obj [] => "\x7b\x7d"
  | .obj ((k, v) :: es) =>
      "\x7b" ++ Text.quoted k ++ ": " ++ quoted v ++ quotedEntries es ++ "\x7d"

/-- The items behind the first one. -/
def quotedItems : List Value → String
  | [] => ""
  | v :: vs => ", " ++ quoted v ++ quotedItems vs

/-- The entries behind the first one. -/
def quotedEntries : List (String × Value) → String
  | [] => ""
  | (k, v) :: es => ", " ++ Text.quoted k ++ ": " ++ quoted v ++ quotedEntries es

end

/-- The text of a value: a string is its own text, any other value is shown as in messages. -/
def text : Value → String
  | .str s => s
  | v => quoted v

end RouteDoc.Value
