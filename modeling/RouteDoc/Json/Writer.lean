import RouteDoc.Number.Numeral
import RouteDoc.Number.Shortest
import RouteDoc.Value
/-!
# RouteDoc.Json.Writer

**Writing JSON.** `render` lays a value out over several lines, two blanks deeper at each level;
an empty list or object stays on one line. Characters outside ASCII are written as they are.
Numbers that JSON has no form for are written as `NaN`, `Infinity` and `-Infinity`.
-/

namespace RouteDoc.Json

/-- The four digits of an escape. -/
def hexDigits (n : Nat) : List Char :=
  let ds := Nat.toDigits 16 n
  List.replicate (4 - ds.length) '0' ++ ds

/-- A character inside a string. -/
def escapeChar (c : Char) : List Char :=
  match c with
  | '"' => ['\\', '"']
  | '\\' => ['\\', '\\']
  | '\n' => ['\\', 'n']
  | '\r' => ['\\', 'r']
  | '\t' => ['\\', 't']
  | _ =>
      if c.toNat = 8 then ['\\', 'b']
      else if c.toNat = 12 then ['\\', 'f']
      else if c.toNat < 32 then '\\' :: 'u' :: hexDigits c.toNat
      else [c]

/-- A string with its quotes. -/
def quote (s : String) : String :=
  String.ofList ('"' :: s.toList.flatMap escapeChar ++ ['"'])

/-- The text of a number with a fraction or an exponent. -/
def numberText (x : Binary64) : String :=
  if x.isNaN then "NaN"
  else if x.isInfinite then (if x.isNegative then "-Infinity" else "Infinity")
  else x.text

/-- A new line at a depth. -/
def newline (depth : Nat) : String := "\n" ++ String.ofList (List.replicate (2 * depth) ' ')

mutual

/-- A value whose own lines stand at a depth. -/
def renderAt (depth : Nat) : Value → String
  | .null => "null"
  | .bool b => if b then "true" else "false"
  | .int n => Number.intText n
  | .float x => numberText x
  | .str s => quote s
  | .arr [] => "[]"
  | .arr (v :: vs) =>
      "[" ++ newline (depth + 1) ++ renderAt (depth + 1) v ++ renderItems (depth + 1) vs
        ++ newline depth ++ "]"
  | .obj [] => "\x7b\x7d"
  | .obj ((k, v) :: es) =>
      "\x7b" ++ newline (depth + 1) ++ quote k ++ ": " ++ renderAt (depth + 1) v
        ++ renderEntries (depth + 1) es ++ newline depth ++ "\x7d"

/-- The items behind the first one. -/
def renderItems (depth : Nat) : List Value → String
  | [] => ""
  | v :: vs => "," ++ newline depth ++ renderAt depth v ++ renderItems depth vs

/-- The entries behind the first one. -/
def renderEntries (depth : Nat) : List (String × Value) → String
  | [] => ""
  | (k, v) :: es =>
      "," ++ newline depth ++ quote k ++ ": " ++ renderAt depth v ++ renderEntries depth es

end

/-- A value as a text that ends with a new line. -/
def render (v : Value) : String := renderAt 0 v ++ "\n"

mutual

/-- A value on one line without blanks. -/
def compact : Value → String
  | .null => "null"
  | .bool b => if b then "true" else "false"
  | .int n => Number.intText n
  | .float x => numberText x
  | .str s => quote s
  | .arr [] => "[]"
  | .arr (v :: vs) => "[" ++ compact v ++ compactItems vs ++ "]"
  | .obj [] => "\x7b\x7d"
  | .obj ((k, v) :: es) => "\x7b" ++ quote k ++ ":" ++ compact v ++ compactEntries es ++ "\x7d"

/-- The items behind the first one, on one line. -/
def compactItems : List Value → String
  | [] => ""
  | v :: vs => "," ++ compact v ++ compactItems vs

/-- The entries behind the first one, on one line. -/
def compactEntries : List (String × Value) → String
  | [] => ""
  | (k, v) :: es => "," ++ quote k ++ ":" ++ compact v ++ compactEntries es

end

end RouteDoc.Json
