import RouteDoc.Number.Binary64
import RouteDoc.Text.Digit
/-!
# RouteDoc.Number.Numeral

**Reading numerals.** Rule arguments and enumeration values are texts that may be numbers.

* `readInt?` takes an optional sign and decimal digits of any script; one underscore may stand
  between two digits, and a numeral of more than 4300 digits is refused.
* `readFloat?` takes a fraction and an exponent too, and the words for infinity and for what is
  no number.
* `readNumber?` prefers the integer.
-/

namespace RouteDoc.Number

open RouteDoc.Text

/-- Replace decimal digits of any script by those of ASCII. -/
def plainDigits (cs : List Char) : List Char :=
  cs.map fun c => match digitValue? c with
    | some n => Nat.digitChar n
    | none => c

/-- Drop single underscores between digits; any other underscore spoils the numeral. -/
def dropUnderscores? (cs : List Char) : Option (List Char) := go none cs
where
  /-- `before` is the character before the rest. -/
  go (before : Option Char) : List Char → Option (List Char)
    | [] => some []
    | '_' :: rest =>
        match before, rest with
        | some b, c :: _ =>
            if b.isDigit && c.isDigit then go (some '_') rest else none
        | _, _ => none
    | c :: rest => (go (some c) rest).map (c :: ·)

/-- The sign of a numeral (whether it is negative) and the rest. -/
def takeSign : List Char → Bool × List Char
  | '-' :: rest => (true, rest)
  | '+' :: rest => (false, rest)
  | cs => (false, cs)

/-- The number written by decimal digits of ASCII. -/
def ofDigits (cs : List Char) : Nat :=
  cs.foldl (fun n c => 10 * n + (c.toNat - 48)) 0

/-- The decimal numeral of an integer. -/
def intText (n : Int) : String :=
  if n < 0 then "-" ++ Nat.repr n.natAbs else Nat.repr n.natAbs

/-- The greatest number of digits of an integer numeral. -/
def maxDigits : Nat := 4300

/-- Read an integer. -/
def readInt? (s : String) : Option Int :=
  let (negative, body) := takeSign (plainDigits s.toList)
  match dropUnderscores? body with
  | none => none
  | some ds =>
      if ds.isEmpty || !ds.all Char.isDigit || maxDigits < ds.length then none
      else
        let n : Int := ofDigits ds
        some (if negative then -n else n)

/-- Read the exponent of a numeral: nothing, or a mark, a sign and digits. -/
def readExponent? : List Char → Option Int
  | [] => some 0
  | c :: rest =>
      if c = 'e' || c = 'E' then
        let (negative, ds) := takeSign rest
        if ds.isEmpty || !ds.all Char.isDigit then none
        else
          let n : Int := ofDigits ds
          some (if negative then -n else n)
      else none

/-- Read an unsigned decimal: digits with at most one point, at least one digit, and an
exponent. -/
def readDecimal? (negative : Bool) (cs : List Char) : Option Binary64 :=
  let whole := cs.takeWhile Char.isDigit
  let rest := cs.dropWhile Char.isDigit
  let (fraction, rest) := match rest with
    | '.' :: rest => (rest.takeWhile Char.isDigit, rest.dropWhile Char.isDigit)
    | _ => ([], rest)
  if whole.isEmpty && fraction.isEmpty then none
  else (readExponent? rest).map fun e =>
    Binary64.ofDecimal negative (ofDigits (whole ++ fraction)) (e - fraction.length)

/-- Read a number with a fraction or an exponent, infinity, or what is no number. -/
def readFloat? (s : String) : Option Binary64 :=
  match dropUnderscores? (plainDigits s.toList) with
  | none => none
  | some cs =>
      let (negative, body) := takeSign cs
      let word := String.ofList (body.map Char.toLower)
      if word = "inf" || word = "infinity" then some (.infinity negative)
      else if word = "nan" then some .nan
      else readDecimal? negative body

end RouteDoc.Number
