import RouteDoc.Fault
import RouteDoc.Text.Blank
import RouteDoc.Text.Word
/-!
# RouteDoc.Text.Pattern

**Searching for patterns.** Filters leave out routes whose name matches a pattern. What a text means
as a pattern is the matter of a `PatternEngine`, which whoever applies filters brings along: a text
may be no pattern, which is ignored, or reading it may break off, which is not.

`Pattern.engine` is an engine for patterns that are made of characters, sets, groups, alternatives,
repetition, anchors and word boundaries. It has no flags, no names for groups, no references to
groups and no look-around.

* `Pattern.parse` reads a pattern.
* `Pattern.ends` lists where a match that starts at a place may end, so repetition is a closure and
  needs no backtracking.
* `Pattern.occursIn` asks whether a match starts anywhere.
-/

namespace RouteDoc.Text

/-! ### Engines -/

/-- Why a text cannot be searched for as a pattern. -/
inductive PatternError where
  /-- It is no pattern. -/
  | malformed
  /-- Reading it breaks off. -/
  | fault (f : Fault)
deriving DecidableEq, Repr

/-- A way of searching: what it reads a text as is the search for a match somewhere in a text. -/
abbrev PatternEngine := String → Except PatternError (String → Bool)

/-! ### Patterns -/

/-- A set of characters. -/
inductive CharSet where
  /-- One character. -/
  | one (c : Char)
  /-- A range, both ends included. -/
  | range (first last : Char)
  /-- Anything but a new line. -/
  | any
  /-- Decimal digits. -/
  | digit
  /-- Word characters. -/
  | word
  /-- White space. -/
  | blank
  /-- The characters of one of the sets. -/
  | union (sets : List CharSet)
  /-- The characters outside a set. -/
  | except (set : CharSet)
deriving Inhabited

mutual

/-- Whether a set holds a character. -/
def CharSet.holds (ch : Char) : CharSet → Bool
  | .one c => ch = c
  | .range first last => first ≤ ch && ch ≤ last
  | .any => ch ≠ '\n'
  | .digit => isDecimal ch
  | .word => isWord ch
  | .blank => isBlank ch
  | .union sets => anyHolds ch sets
  | .except set => !CharSet.holds ch set

/-- Whether one of the sets holds a character. -/
def anyHolds (ch : Char) : List CharSet → Bool
  | [] => false
  | set :: rest => CharSet.holds ch set || anyHolds ch rest

end

/-- A regular expression. -/
inductive Pattern where
  /-- Nothing. -/
  | empty
  /-- One character of a set. -/
  | char (set : CharSet)
  /-- The start of the text. -/
  | start
  /-- The end of the text, or the place before a new line there. -/
  | stop
  /-- The very end of the text. -/
  | veryEnd
  /-- A word boundary, or a place that is none. -/
  | boundary (there : Bool)
  /-- One pattern behind another. -/
  | seq (a b : Pattern)
  /-- One of two patterns. -/
  | alt (a b : Pattern)
  /-- A pattern so many times in a row. -/
  | times (p : Pattern) (least : Nat) (most : Option Nat)
deriving Inhabited

namespace Pattern

/-! ### Matching -/

/-- Whether a word character stands at a place. -/
def wordAt (s : Array Char) (i : Nat) : Bool :=
  match s[i]? with
  | some c => isWord c
  | none => false

/-- Whether a place is between a word character and something else. -/
def isBoundary (s : Array Char) (i : Nat) : Bool :=
  wordAt s i != (i ≠ 0 && wordAt s (i - 1))

/-- The places that are reached from the given ones by a step, at most `fuel` times, themselves
included. -/
def closure (step : Nat → List Nat) : Nat → List Nat → List Nat
  | 0, places => places
  | fuel + 1, places =>
      let next := (places.flatMap step).filter (· ∉ places)
      if next.isEmpty then places else closure step fuel (places ++ next.eraseDups)

/-- The places that are reached by exactly so many steps. -/
def exactly (step : Nat → List Nat) : Nat → List Nat → List Nat
  | 0, places => places
  | n + 1, places =>
      let next := (places.flatMap step).eraseDups
      if next = places then places else exactly step n next

/-- The places that are reached by at most so many steps. -/
def atMost (step : Nat → List Nat) : Nat → List Nat → List Nat
  | 0, places => places
  | n + 1, places =>
      let next := (places.flatMap step).eraseDups
      if next = places then places else (places ++ atMost step n next).eraseDups

/-- Where a match of the pattern that starts at a place may end. -/
def ends (s : Array Char) : Pattern → Nat → List Nat
  | .empty, i => [i]
  | .char set, i => match s[i]? with
      | some c => if set.holds c then [i + 1] else []
      | none => []
  | .start, i => if i = 0 then [i] else []
  | .stop, i =>
      if i = s.size || (i + 1 = s.size && s[i]? = some '\n') then [i] else []
  | .veryEnd, i => if i = s.size then [i] else []
  | .boundary there, i => if isBoundary s i = there then [i] else []
  | .seq a b, i => ((ends s a i).flatMap (ends s b)).eraseDups
  | .alt a b, i => (ends s a i ++ ends s b i).eraseDups
  | .times p least most, i =>
      let first := exactly (ends s p) least [i]
      match most with
      | none => closure (ends s p) (s.size + 1) first
      | some most => atMost (ends s p) (most - least) first

/-- Whether the pattern matches somewhere in a text. -/
def occursIn (p : Pattern) (s : String) : Bool :=
  let cs := s.toList.toArray
  (List.range (cs.size + 1)).any fun i => !(ends cs p i).isEmpty

/-! ### Reading patterns -/

/-- The set of an escaped letter. -/
def escapedSet? : Char → Option CharSet
  | 'd' => some .digit
  | 'w' => some .word
  | 's' => some .blank
  | 'D' => some (.except .digit)
  | 'W' => some (.except .word)
  | 'S' => some (.except .blank)
  | 'n' => some (.one '\n')
  | 't' => some (.one '\t')
  | 'r' => some (.one '\r')
  | 'f' => some (.one (Char.ofNat 12))
  | 'v' => some (.one (Char.ofNat 11))
  | 'a' => some (.one (Char.ofNat 7))
  | c => if c.isAlphanum then none else some (.one c)

/-- An escape outside sets. -/
def escaped? : Char → Option Pattern
  | 'b' => some (.boundary true)
  | 'B' => some (.boundary false)
  | 'A' => some .start
  | 'Z' => some .veryEnd
  | c => (escapedSet? c).map .char

/-- One member of a set: a character, or a class that is no end of a range. -/
def setMember? : List Char → Option (CharSet × Option Char × List Char)
  | '\\' :: 'b' :: rest => some (.one (Char.ofNat 8), some (Char.ofNat 8), rest)
  | '\\' :: c :: rest => match escapedSet? c with
      | some (.one c) => some (.one c, some c, rest)
      | some set => some (set, none, rest)
      | none => none
  | ['\\'] => none
  | c :: rest => some (.one c, some c, rest)
  | [] => none

/-- The members of a set up to its closing bracket; a bracket at the very start is a member. -/
def setMembers? : Nat → Bool → List CharSet → List Char → Option (List CharSet × List Char)
  | 0, _, _, _ => none
  | fuel + 1, first, done, cs =>
      match cs with
      | ']' :: rest =>
          if first then setMembers? fuel false (.one ']' :: done) rest else some (done, rest)
      | cs => match setMember? cs with
          | none => none
          | some (set, low, rest) => match rest with
              | '-' :: ']' :: rest => some (.one '-' :: set :: done, rest)
              | '-' :: more => match low, setMember? more with
                  | some low, some (_, some high, rest) =>
                      if low ≤ high then setMembers? fuel false (.range low high :: done) rest
                      else none
                  | _, _ => none
              | rest => setMembers? fuel false (set :: done) rest

/-- A set behind its opening bracket. -/
def set? (cs : List Char) : Option (CharSet × List Char) :=
  let (negated, cs) := match cs with
    | '^' :: rest => (true, rest)
    | cs => (false, cs)
  (setMembers? (cs.length + 1) true [] cs).map fun (sets, rest) =>
    (if negated then .except (.union sets) else .union sets, rest)

/-- From this number on, a number of repetitions is too large. -/
def maxRepetitions : Nat := 4294967295

/-- The number of repetitions that some digits stand for. -/
def repetitions (digits : List Char) : Except PatternError Nat :=
  let n := digits.foldl (fun n d => 10 * n + (d.toNat - 48)) 0
  if Number.maxDigits < digits.length then .error (.fault (.numeralTooLong digits.length))
  else if maxRepetitions ≤ n then .error (.fault .repetitionTooLarge)
  else .ok n

/-- The bounds of a repetition in braces; anything else in braces stands for itself. -/
def bounds? (cs : List Char) : Except PatternError (Option (Nat × Option Nat × List Char)) :=
  let low := cs.takeWhile Char.isDigit
  match cs.drop low.length with
  | '}' :: rest =>
      if low.isEmpty then .ok none
      else (repetitions low).map fun n => some (n, some n, rest)
  | ',' :: more =>
      let high := more.takeWhile Char.isDigit
      match more.drop high.length with
      | '}' :: rest => do
          let least ← repetitions low
          let most ← if high.isEmpty then pure none else some <$> repetitions high
          return some (least, most, rest)
      | _ => .ok none
  | _ => .ok none

/-- The repetition mark at the front. -/
def mark? : List Char → Except PatternError (Option (Nat × Option Nat × List Char))
  | '*' :: rest => .ok (some (0, none, rest))
  | '+' :: rest => .ok (some (1, none, rest))
  | '?' :: rest => .ok (some (0, some 1, rest))
  | '{' :: rest => bounds? rest
  | _ => .ok none

/-- Whether a pattern takes no characters, so that it cannot be repeated by a mark. -/
def isAnchor : Pattern → Bool
  | .start | .stop | .veryEnd | .boundary _ => true
  | _ => false

/-- Whether the bounds of a repetition are in order. -/
def inOrder (least : Nat) : Option Nat → Bool
  | none => true
  | some most => least ≤ most

/-- Apply the repetition mark behind a pattern. A second mark behind the first one is an error,
but for those that only say how eagerly to match. -/
def repeated (p : Pattern) (cs : List Char) : Except PatternError (Pattern × List Char) := do
  match ← mark? cs with
  | none => return (p, cs)
  | some (least, most, rest) =>
      let rest := match rest with
        | '?' :: rest => rest
        | '+' :: rest => rest
        | rest => rest
      if !inOrder least most || isAnchor p then throw .malformed
      else if (← mark? rest).isSome then throw .malformed
      else return (.times p least most, rest)

/-- What was read of a text, if it was a part of a pattern. -/
def orMalformed {α : Type} : Option α → Except PatternError α
  | some a => .ok a
  | none => .error .malformed

/-- Go on behind a closing parenthesis. -/
def closed (p : Pattern) : List Char → Except PatternError (Pattern × List Char)
  | ')' :: rest => .ok (p, rest)
  | _ => .error .malformed

mutual

/-- Alternatives up to a closing parenthesis or the end. -/
def alternatives : Nat → List Char → Except PatternError (Pattern × List Char)
  | 0, _ => .error .malformed
  | fuel + 1, cs => do
      let (p, rest) ← sequence fuel .empty cs
      match rest with
      | '|' :: rest =>
          let (q, rest) ← alternatives fuel rest
          return (.alt p q, rest)
      | rest => return (p, rest)

/-- A sequence up to a bar, a closing parenthesis or the end; `done` is what was read. -/
def sequence : Nat → Pattern → List Char → Except PatternError (Pattern × List Char)
  | 0, _, _ => .error .malformed
  | fuel + 1, done, cs =>
      match cs with
      | [] => .ok (done, [])
      | '|' :: _ | ')' :: _ => .ok (done, cs)
      | _ => do
          let (p, rest) ← atom fuel cs
          let (p, rest) ← repeated p rest
          sequence fuel (.seq done p) rest

/-- One atom: a character, a set, an anchor or a group. -/
def atom : Nat → List Char → Except PatternError (Pattern × List Char)
  | 0, _ => .error .malformed
  | fuel + 1, cs =>
      match cs with
      | '(' :: '?' :: ':' :: rest => do
          let (p, rest) ← alternatives fuel rest
          closed p rest
      | '(' :: '?' :: _ => .error .malformed
      | '(' :: rest => do
          let (p, rest) ← alternatives fuel rest
          closed p rest
      | '[' :: rest => (orMalformed (set? rest)).map fun (set, rest) => (.char set, rest)
      | '\\' :: c :: rest => (orMalformed (escaped? c)).map fun p => (p, rest)
      | '.' :: rest => .ok (.char .any, rest)
      | '^' :: rest => .ok (.start, rest)
      | '$' :: rest => .ok (.stop, rest)
      | '{' :: rest => do
          if (← bounds? rest).isSome then throw .malformed
          else return (.char (.one '{'), rest)
      | c :: rest =>
          if c = '*' || c = '+' || c = '?' || c = '\\' then .error .malformed
          else .ok (.char (.one c), rest)
      | [] => .error .malformed

end

/-- Read a pattern. -/
def parse (s : String) : Except PatternError Pattern := do
  let (p, rest) ← alternatives (4 * s.toList.length + 4) s.toList
  if rest.isEmpty then return p else throw .malformed

/-- The engine for these patterns. -/
def engine : PatternEngine := fun s => (parse s).map occursIn

end Pattern

end RouteDoc.Text
