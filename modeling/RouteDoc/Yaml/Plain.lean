import RouteDoc.Text.Pieces
/-!
# RouteDoc.Yaml.Plain

**What an unquoted scalar of YAML 1.1 stands for.** `Yaml.Kind.ofPlain` decides by the form of the
text alone whether it is null, a truth value, a number, a date or a plain text. Reading uses it to
find the value of a scalar, writing to find out which texts need quotes, so both agree.
-/

namespace RouteDoc.Yaml

/-- What a scalar without quotes stands for. -/
inductive Kind where
  /-- No value. -/
  | null
  /-- True or false. -/
  | bool
  /-- An integer. -/
  | int
  /-- Another number. -/
  | float
  /-- A date, or a date with a time. -/
  | timestamp
  /-- The key that merges another mapping in. -/
  | merge
  /-- The key of a default value. -/
  | value
  /-- A text. -/
  | text
deriving DecidableEq, Repr

/-! ### Words -/

/-- Words for no value. -/
def nullWords : List String := ["", "~", "null", "Null", "NULL"]

/-- Words for true. -/
def trueWords : List String := ["yes", "Yes", "YES", "true", "True", "TRUE", "on", "On", "ON"]

/-- Words for false. -/
def falseWords : List String := ["no", "No", "NO", "false", "False", "FALSE", "off", "Off", "OFF"]

/-! ### Numbers -/

/-- Cut a sign off. -/
def dropSign : List Char → List Char
  | '-' :: rest => rest
  | '+' :: rest => rest
  | cs => cs

/-- Whether there are digits, all of them below a bound, underscores aside. -/
def areDigits (p : Char → Bool) (cs : List Char) : Bool :=
  !cs.isEmpty && cs.all fun c => p c || c = '_'

/-- Whether the character is a binary digit. -/
def isBinary (c : Char) : Bool := c = '0' || c = '1'

/-- Whether the character is an octal digit. -/
def isOctal (c : Char) : Bool := '0' ≤ c && c ≤ '7'

/-- Whether the character is a hexadecimal digit. -/
def isHex (c : Char) : Bool := c.isDigit || ('a' ≤ c && c ≤ 'f') || ('A' ≤ c && c ≤ 'F')

/-- Whether the text is a group of a number in base sixty: one or two digits below sixty. -/
def isSixtieth : List Char → Bool
  | [d] => d.isDigit
  | [t, d] => '0' ≤ t && t ≤ '5' && d.isDigit
  | _ => false

/-- Whether digits come first, the first of them no underscore. -/
def startsWithDigit : List Char → Bool
  | d :: rest => d.isDigit && rest.all fun c => c.isDigit || c = '_'
  | [] => false

/-- Whether the text is an unsigned number in base sixty, a group of digits and others below sixty
behind colons. -/
def isSexagesimal (cs : List Char) : Bool :=
  match cs.splitOn ':' with
  | first :: second :: rest =>
      startsWithDigit first && (second :: rest).all isSixtieth
  | _ => false

/-- Whether an unsigned text is an integer. -/
def isInteger : List Char → Bool
  | ['0'] => true
  | '0' :: 'b' :: ds => areDigits isBinary ds
  | '0' :: 'x' :: ds => areDigits isHex ds
  | '0' :: ds => areDigits isOctal ds
  | cs => startsWithDigit cs || isSexagesimal cs

/-- Whether the text is an exponent, or nothing. -/
def isExponent : List Char → Bool
  | [] => true
  | e :: sign :: ds =>
      (e = 'e' || e = 'E') && (sign = '+' || sign = '-') && !ds.isEmpty && ds.all Char.isDigit
  | _ => false

/-- Whether the character is a digit or an underscore. -/
def isDigitOrScore (c : Char) : Bool := c.isDigit || c = '_'

/-- Whether an unsigned text is a number with a point. -/
def isDecimalNumber (cs : List Char) : Bool :=
  match Text.cutChars '.' cs with
  | none => false
  | some (whole, rest) =>
      let exponent := rest.dropWhile isDigitOrScore
      (startsWithDigit whole && isExponent exponent)
        || (isSexagesimal whole && exponent.isEmpty)

/-- Whether the text is a point with digits behind it. -/
def isFractionNumber : List Char → Bool
  | '.' :: d :: rest => d.isDigit && isExponent (rest.dropWhile isDigitOrScore)
  | _ => false

/-- The words for infinity, unsigned. -/
def infinityWords : List String := [".inf", ".Inf", ".INF"]

/-- The words for what is no number. -/
def nanWords : List String := [".nan", ".NaN", ".NAN"]

/-- Whether the text is a number with a fraction, infinity, or the word for no number. -/
def isFloat (cs : List Char) : Bool :=
  isDecimalNumber (dropSign cs) || isFractionNumber cs
    || String.ofList (dropSign cs) ∈ infinityWords || String.ofList cs ∈ nanWords

/-! ### Dates -/

/-- Whether there are so many digits and nothing else. -/
def isDigitRun (least most : Nat) (cs : List Char) : Bool :=
  least ≤ cs.length && cs.length ≤ most && cs.all Char.isDigit

/-- Whether the text is a blank of a date. -/
def isDateBlank (c : Char) : Bool := c = ' ' || c = '\t'

/-- Whether the text is a distance from universal time. -/
def isZone (cs : List Char) : Bool :=
  match cs.dropWhile isDateBlank with
  | [] => cs.isEmpty
  | ['Z'] => true
  | sign :: rest =>
      (sign = '+' || sign = '-') && match rest.splitOn ':' with
        | [hours] => isDigitRun 1 2 hours
        | [hours, minutes] => isDigitRun 1 2 hours && isDigitRun 2 2 minutes
        | _ => false

/-- Whether the text is a second with a fraction and a zone. -/
def isSecondAndZone (cs : List Char) : Bool :=
  isDigitRun 2 2 (cs.take 2) && match cs.drop 2 with
    | '.' :: rest => isZone (rest.dropWhile Char.isDigit)
    | rest => isZone rest

/-- Whether the text is a time of day with what follows it. -/
def isTime (cs : List Char) : Bool :=
  match Text.cutChars ':' cs with
  | none => false
  | some (hour, rest) => isDigitRun 1 2 hour && match Text.cutChars ':' rest with
      | none => false
      | some (minute, rest) => isDigitRun 2 2 minute && isSecondAndZone rest

/-- The text behind the mark between a date and its time. -/
def behindTimeMark? (cs : List Char) : Option (List Char) :=
  match cs with
  | [] => none
  | c :: rest =>
      if c = 'T' || c = 't' then some rest
      else if isDateBlank c then some (rest.dropWhile isDateBlank)
      else none

/-- Whether the text is a date, or a date with a time. -/
def isTimestamp (cs : List Char) : Bool :=
  match Text.cutChars '-' cs with
  | none => false
  | some (year, rest) => isDigitRun 4 4 year && match Text.cutChars '-' rest with
      | none => false
      | some (month, rest) =>
          let day := rest.takeWhile Char.isDigit
          match rest.drop day.length with
          | [] => isDigitRun 2 2 month && isDigitRun 2 2 day
          | more => isDigitRun 1 2 month && isDigitRun 1 2 day
              && (behindTimeMark? more).any isTime

/-- What a scalar without quotes stands for. -/
def Kind.ofPlain (s : String) : Kind :=
  let cs := s.toList
  if s ∈ nullWords then .null
  else if s ∈ trueWords || s ∈ falseWords then .bool
  else if isFloat cs then .float
  else if isInteger (dropSign cs) then .int
  else if isTimestamp cs then .timestamp
  else if s = "<<" then .merge
  else if s = "=" then .value
  else .text

end RouteDoc.Yaml
