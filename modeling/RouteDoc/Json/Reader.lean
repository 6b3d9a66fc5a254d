import RouteDoc.Number.Numeral
import RouteDoc.Value
/-!
# RouteDoc.Json.Reader

**Reading JSON.** A reader of the whole grammar, over the characters of a text.

* The entries of an object keep their order; a repeated name keeps its first place and its last
  value.
* A number without fraction and exponent is an integer of any size up to the limit on numerals;
  one beyond it is an error of its own. The words `NaN`, `Infinity` and `-Infinity` are numbers.
* Control characters inside strings and a byte order mark at the start are refused.

Every step hands on what is left of the text; the recursion is bounded by the length of the
text, which no nesting can exceed.
-/

namespace RouteDoc.Json

open RouteDoc.Number

/-- Why a text is not read. -/
inductive ReadError where
  /-- The text is not JSON. -/
  | malformed
  /-- An integer has more digits than a numeral may have. -/
  | numeralTooLong (digits : Nat)
deriving DecidableEq, Repr

/-- The blanks of JSON. -/
def isSpace (c : Char) : Bool := c = ' ' || c = '\t' || c = '\n' || c = '\r'

/-- Skip blanks. -/
def skipSpace (cs : List Char) : List Char := cs.dropWhile isSpace

/-- The code unit written by four hexadecimal digits. -/
def codeUnit? (a b c d : Char) : Option Nat := do
  let a ← Text.hexValue? a
  let b ← Text.hexValue? b
  let c ← Text.hexValue? c
  let d ← Text.hexValue? d
  some (((a * 16 + b) * 16 + c) * 16 + d)

/-- The character of two code units that form a pair. -/
def pair? (high low : Nat) : Option Char :=
  if 0xD800 ≤ high ∧ high ≤ 0xDBFF ∧ 0xDC00 ≤ low ∧ low ≤ 0xDFFF then
    some (Char.ofNat (0x10000 + (high - 0xD800) * 0x400 + (low - 0xDC00)))
  else none

/-- The character of a code unit; a half of a pair that stands alone is shown as unknown. -/
def unitChar (unit : Nat) : Char :=
  if 0xD800 ≤ unit ∧ unit ≤ 0xDFFF then Char.ofNat 0xFFFD else Char.ofNat unit

/-- The character of a one-letter escape. -/
def escape? : Char → Option Char
  | '"' => some '"'
  | '\\' => some '\\'
  | '/' => some '/'
  | 'b' => some (Char.ofNat 8)
  | 'f' => some (Char.ofNat 12)
  | 'n' => some '\n'
  | 'r' => some '\r'
  | 't' => some '\t'
  | _ => none

/-- Read a string behind its opening quote. -/
def readString : Nat → List Char → List Char → Except ReadError (String × List Char)
  | 0, _, _ => .error .malformed
  | fuel + 1, done, cs =>
      match cs with
      | [] => .error .malformed
      | '"' :: rest => .ok (String.ofList done.reverse, rest)
      | '\\' :: 'u' :: a :: b :: c :: d :: rest =>
          match codeUnit? a b c d with
          | none => .error .malformed
          | some unit =>
              match rest with
              | '\\' :: 'u' :: a' :: b' :: c' :: d' :: rest' =>
                  match (codeUnit? a' b' c' d').bind (pair? unit) with
                  | some ch => readString fuel (ch :: done) rest'
                  | none => readString fuel (unitChar unit :: done) rest
              | _ => readString fuel (unitChar unit :: done) rest
      | '\\' :: c :: rest =>
          match escape? c with
          | some ch => readString fuel (ch :: done) rest
          | none => .error .malformed
      | c :: rest =>
          if c.toNat < 32 || c = '\\' then .error .malformed else readString fuel (c :: done) rest

/-- Split a number off: sign and whole part, fraction, exponent, and the rest. -/
def splitNumber? (cs : List Char) : Option (List Char × List Char × List Char × List Char) :=
  let (sign, body) := match cs with
    | '-' :: rest => (['-'], rest)
    | _ => ([], cs)
  let whole := match body with
    | '0' :: _ => ['0']
    | _ => body.takeWhile Char.isDigit
  if whole.isEmpty then none
  else
    let rest := body.drop whole.length
    let (fraction, rest) := match rest with
      | '.' :: more =>
          let ds := more.takeWhile Char.isDigit
          if ds.isEmpty then ([], rest) else ('.' :: ds, more.drop ds.length)
      | _ => ([], rest)
    let (exponent, rest) := match rest with
      | c :: more =>
          if c = 'e' || c = 'E' then
            let (sign, ds) : List Char × List Char := match more with
              | '+' :: more => (['+'], more.takeWhile Char.isDigit)
              | '-' :: more => (['-'], more.takeWhile Char.isDigit)
              | _ => ([], more.takeWhile Char.isDigit)
            if ds.isEmpty then ([], rest)
            else ('e' :: sign ++ ds, more.drop (sign.length + ds.length))
          else ([], rest)
      | [] => ([], rest)
    some (sign ++ whole, fraction, exponent, rest)

/-- Read a number. -/
def readNumber (cs : List Char) : Except ReadError (Value × List Char) :=
  match splitNumber? cs with
  | none => .error .malformed
  | some (whole, [], [], rest) =>
      match readInt? (String.ofList whole) with
      | some n => .ok (.int n, rest)
      | none => .error (.numeralTooLong (whole.filter Char.isDigit).length)
  | some (whole, fraction, exponent, rest) =>
      match readFloat? (String.ofList (whole ++ fraction ++ exponent)) with
      | some x => .ok (.float x, rest)
      | none => .error .malformed

/-- The words that stand for values. -/
def words : List (List Char × Value) :=
  [("null".toList, .null), ("true".toList, .bool true), ("false".toList, .bool false),
   ("NaN".toList, .float .nan), ("Infinity".toList, .float (.infinity false)),
   ("-Infinity".toList, .float (.infinity true))]

mutual

/-- Read a value; blanks before it are skipped already. -/
def readValue : Nat → List Char → Except ReadError (Value × List Char)
  | 0, _ => .error .malformed
  | fuel + 1, cs =>
      match cs with
      | '"' :: rest => do
          let (s, rest) ← readString (rest.length + 1) [] rest
          .ok (.str s, rest)
      | '[' :: rest =>
          match skipSpace rest with
          | ']' :: rest => .ok (.arr [], rest)
          | rest => readItems fuel [] rest
      | '{' :: rest =>
          match skipSpace rest with
          | '}' :: rest => .ok (.obj [], rest)
          | rest => readEntries fuel [] rest
      | cs =>
          match words.find? fun w => w.1.isPrefixOf cs with
          | some (word, v) => .ok (v, cs.drop word.length)
          | none => readNumber cs

/-- Read the items of a list from one item on; `done` holds those before it, the last first. -/
def readItems : Nat → List Value → List Char → Except ReadError (Value × List Char)
  | 0, _, _ => .error .malformed
  | fuel + 1, done, cs => do
      let (v, rest) ← readValue fuel cs
      match skipSpace rest with
      | ',' :: rest => readItems fuel (v :: done) (skipSpace rest)
      | ']' :: rest => .ok (.arr (v :: done).reverse, rest)
      | _ => .error .malformed

/-- Read the entries of an object from one name on. -/
def readEntries : Nat → Fragment → List Char → Except ReadError (Value × List Char)
  | 0, _, _ => .error .malformed
  | fuel + 1, done, cs =>
      match cs with
      | '"' :: rest => do
          let (name, rest) ← readString (rest.length + 1) [] rest
          match skipSpace rest with
          | ':' :: rest => do
              let (v, rest) ← readValue fuel (skipSpace rest)
              let done := Table.insert done name v
              match skipSpace rest with
              | ',' :: rest => readEntries fuel done (skipSpace rest)
              | '}' :: rest => .ok (.obj done, rest)
              | _ => .error .malformed
          | _ => .error .malformed
      | _ => .error .malformed

end

/-- Read a text that holds one value. -/
def read (s : String) : Except ReadError Value := do
  let cs := s.toList
  let (v, rest) ← readValue (2 * cs.length + 2) (skipSpace cs)
  if (skipSpace rest).isEmpty then .ok v else .error .malformed

end RouteDoc.Json
