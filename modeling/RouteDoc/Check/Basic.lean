import RouteDoc.Check.Datum
import RouteDoc.Text.Pieces
/-!
# RouteDoc.Check.Basic

**Checking documents against record types.** A check turns a document into a value of a type or
lists everything that is wrong with it, each issue with its place.

* `Checked` collects issues: where two parts are checked, the issues of both are kept, in order.
* The checks of plain types are lenient in fixed ways: an integer may be given as a text or as a
  number without fraction, a truth value as one of a few words.
* `Checked.issueText` is the form in which issues are reported.
-/

namespace RouteDoc

/-- What is wrong at one place of a document. -/
inductive Problem where
  /-- A required entry is missing. -/
  | missing
  /-- A text was needed. -/
  | notText
  /-- An integer was needed. -/
  | notInteger
  /-- The text is no integer. -/
  | unreadableInteger
  /-- The numeral is too long to be read. -/
  | oversizedInteger
  /-- The number has a fraction. -/
  | fractionalInteger
  /-- The number is infinite, or not a number. -/
  | notFinite
  /-- A truth value was needed. -/
  | notTruth
  /-- The text or number stands for no truth value. -/
  | unreadableTruth
  /-- A list was needed. -/
  | notList
  /-- A mapping was needed. -/
  | notMapping
  /-- A record was needed. -/
  | notRecord
deriving DecidableEq, Repr

/-- The name of a problem in reports. -/
def Problem.name : Problem → String
  | .missing => "missing"
  | .notText => "string_type"
  | .notInteger => "int_type"
  | .unreadableInteger => "int_parsing"
  | .oversizedInteger => "int_parsing_size"
  | .fractionalInteger => "int_from_float"
  | .notFinite => "finite_number"
  | .notTruth => "bool_type"
  | .unreadableTruth => "bool_parsing"
  | .notList => "list_type"
  | .notMapping => "dict_type"
  | .notRecord => "model_type"

/-- A problem with its place. -/
structure Issue where
  /-- The way to the place: names and positions. -/
  place : List String
  /-- What is wrong there. -/
  problem : Problem
deriving DecidableEq, Repr

/-- An issue in words. -/
def Issue.text (i : Issue) : String :=
  String.intercalate "." i.place ++ ": " ++ i.problem.name

/-- Issues in words, in order. -/
def issueText (issues : List Issue) : String :=
  String.intercalate "; " (issues.map Issue.text)

/-- The outcome of a check: a value, or what is wrong. -/
inductive Checked (α : Type) where
  /-- Nothing is wrong. -/
  | valid (a : α)
  /-- The issues, in order. -/
  | invalid (issues : List Issue)
deriving Inhabited

namespace Checked

variable {α β : Type}

/-- A single issue at this place. -/
def fail (problem : Problem) : Checked α := .invalid [⟨[], problem⟩]

/-- Apply a function to a checked value. -/
def map (f : α → β) : Checked α → Checked β
  | .valid a => .valid (f a)
  | .invalid issues => .invalid issues

/-- Check two parts, keeping the issues of both. -/
def ap (f : Checked (α → β)) (x : Unit → Checked α) : Checked β :=
  match f, x () with
  | .valid f, .valid a => .valid (f a)
  | .valid _, .invalid issues => .invalid issues
  | .invalid issues, .valid _ => .invalid issues
  | .invalid issues, .invalid more => .invalid (issues ++ more)

instance : Functor Checked where
  map := map

instance : Applicative Checked where
  pure := .valid
  seq := ap

/-- The check of a part that stands under a name. -/
def under (name : String) : Checked α → Checked α
  | .valid a => .valid a
  | .invalid issues => .invalid (issues.map fun i => { i with place := name :: i.place })

/-- The outcome as an exception. -/
def toExcept : Checked α → Except (List Issue) α
  | .valid a => .ok a
  | .invalid issues => .error issues

/-- The value, when nothing is wrong. -/
def get? : Checked α → Option α
  | .valid a => some a
  | .invalid _ => none

/-- Check all members of a list, each under its position from `start` on. -/
def all (check : β → Checked α) (start : Nat) : List β → Checked (List α)
  | [] => .valid []
  | b :: rest =>
      (fun a as => a :: as) <$> (check b).under (Nat.repr start) <*> all check (start + 1) rest

end Checked

namespace Check

open Text

/-! ### Plain types -/

/-- Anything at all. -/
def any (d : Datum) : Checked Value := .valid d.toValue

/-- A text. -/
def text : Datum → Checked String
  | .str s => .valid s
  | _ => .fail .notText

/-- Drop zeros in front of an unsigned numeral; the last one of several stays. -/
def dropLeadingZeros? : List Char → Option (List Char)
  | [] => none
  | c :: rest =>
      if c = '0' then
        match rest.dropWhile fun c => c = '0' || c = '_' with
        | [] => some [rest.getLast?.getD '0']
        | '.' :: more => some ('0' :: '.' :: more)
        | d :: more => if d.isDigit then some (d :: more) else none
      else if c.isDigit || c = '-' then some (c :: rest)
      else none

/-- Drop a fraction that holds nothing but zeros. -/
def dropZeroFraction (cs : List Char) : List Char :=
  match cutChars '.' cs with
  | some (whole, fraction) => if fraction.all (· = '0') then whole else cs
  | none => cs

/-- Whether an underscore stands at an end or beside another one. -/
def misplacedUnderscore : List Char → Bool
  | [] => false
  | ['_'] => true
  | '_' :: '_' :: _ => true
  | _ :: rest => misplacedUnderscore rest

/-- Read an integer leniently: blanks around it, zeros in front, a fraction of zeros and single
underscores are ignored. -/
def lenientInt? (s : String) : Option Int := do
  let cs := trimChars isBlank s.toList
  let cs ← match cs with
    | '+' :: '-' :: _ => none
    | '+' :: rest => some rest
    | _ => some cs
  let cs ← dropLeadingZeros? cs
  let cs := dropZeroFraction cs
  let cs ← if cs.head? = some '_' || misplacedUnderscore cs then none
    else some (cs.filter (· ≠ '_'))
  let (negative, digits) := match cs with
    | '-' :: digits => (true, digits)
    | digits => (false, digits)
  if digits.isEmpty || !digits.all Char.isDigit then none
  else
    let n : Int := Number.ofDigits digits
    some (if negative then -n else n)

/-- An integer. -/
def integer : Datum → Checked Int
  | .int n => .valid n
  | .bool b => .valid (if b then 1 else 0)
  | .float x =>
      if x.isNaN || x.isInfinite then .fail .notFinite
      else match x.toInt? with
        | some n => .valid n
        | none => .fail .fractionalInteger
  | .str s =>
      if Number.maxDigits < s.toList.length then .fail .oversizedInteger
      else match lenientInt? s with
        | some n => .valid n
        | none => .fail .unreadableInteger
  | _ => .fail .notInteger

/-- Words that stand for false. -/
def falseWords : List String := ["0", "off", "f", "false", "n", "no"]

/-- Words that stand for true. -/
def trueWords : List String := ["1", "on", "t", "true", "y", "yes"]

/-- The truth value of a number. -/
def truthOfInt (n : Int) : Checked Bool :=
  if n = 0 then .valid false else if n = 1 then .valid true else .fail .unreadableTruth

/-- A truth value. -/
def truth : Datum → Checked Bool
  | .bool b => .valid b
  | .int n => truthOfInt n
  | .float x => match x.toInt? with
      | some n => truthOfInt n
      | none => .fail .notTruth
  | .str s =>
      let word := String.ofList (s.toList.map Char.toLower)
      if word ∈ falseWords then .valid false
      else if word ∈ trueWords then .valid true
      else .fail .unreadableTruth
  | _ => .fail .notTruth

/-! ### Lists, mappings and records -/

variable {α κ : Type}

/-- A value that may be absent. -/
def optional (check : Datum → Checked α) : Datum → Checked (Option α)
  | .null => .valid none
  | d => some <$> check d

/-- A list. -/
def list (check : Datum → Checked α) : Datum → Checked (List α)
  | .arr items => Checked.all check 0 items
  | _ => .fail .notList

/-- The entries of a mapping, keys first; an issue with a key is marked as such. -/
def entries (key : Datum → Checked κ) (check : Datum → Checked α) :
    List (Key × Datum) → Checked (List (κ × α))
  | [] => .valid []
  | (k, d) :: rest =>
      (fun k a es => (k, a) :: es)
        <$> ((key k.toDatum).under "[key]").under k.place
        <*> (check d).under k.place
        <*> entries key check rest

/-- A mapping; of equal keys the first place and the last value stay. -/
def mapping [DecidableEq κ] (key : Datum → Checked κ) (check : Datum → Checked α) :
    Datum → Checked (Table κ α)
  | .map es => Table.ofEntries <$> entries key check es
  | _ => .fail .notMapping

/-- A mapping from texts. -/
def table (check : Datum → Checked α) : Datum → Checked (Table String α) := mapping text check

/-- A free-form object. -/
def fragment : Datum → Checked Fragment := table any

/-- The entry under the first of several names that is there, with that name. -/
def entry? (es : List (Key × Datum)) : List String → Option (String × Datum)
  | [] => none
  | name :: rest => match Table.get? es (.str name) with
      | some d => some (name, d)
      | none => entry? es rest

/-- A record: a mapping of which some entries are looked at. -/
def record (fields : List (Key × Datum) → Checked α) : Datum → Checked α
  | .map es => fields es
  | _ => .fail .notRecord

/-- A required entry, under the first of its names that is there. -/
def required (es : List (Key × Datum)) (names : List String) (check : Datum → Checked α) :
    Checked α :=
  match entry? es names with
  | some (name, d) => (check d).under name
  | none => (Checked.fail .missing).under (names.headD "")

/-- An entry with a default. -/
def defaulted (es : List (Key × Datum)) (names : List String) (check : Datum → Checked α)
    (default : α) : Checked α :=
  match entry? es names with
  | some (name, d) => (check d).under name
  | none => .valid default

/-- An entry that may be absent or null. -/
def maybe (es : List (Key × Datum)) (names : List String) (check : Datum → Checked α) :
    Checked (Option α) :=
  defaulted es names (optional check) none

end Check

end RouteDoc
