import RouteDoc.Number.Binary64
/-!
# RouteDoc.Number.Shortest

**The fewest digits that read back**: the decimal text of a double-precision number.

* `Shortest.digits?` finds the shortest decimal inside the interval of reals that round to the
  value, and among those of one length the nearest, a tie to the even last digit. The interval
  holds its ends exactly when the value's significand is even.
* `Binary64.text` lays the digits out: positional while the decimal exponent is at least -4 and
  below 16, with one digit after the point at least, and with an exponent otherwise.
-/

namespace RouteDoc.Number

namespace Shortest

/-- The interval of reals that round to `m · 2 ^ e`, over a common denominator: lower end, value
and upper end as numerators, then the denominator. The gap below a power of two is half as
wide. -/
def interval (m : Nat) (e : Int) : Nat × Nat × Nat × Nat :=
  let below := if m = Nat.pow 2 52 ∧ -1074 < e then 4 * m - 1 else 4 * m - 2
  if 0 ≤ e then
    let unit := Nat.pow 2 e.toNat
    (below * unit, 4 * m * unit, (4 * m + 2) * unit, 4)
  else (below, 4 * m, 4 * m + 2, 4 * Nat.pow 2 (-e).toNat)

/-- The number of times the numerator must grow tenfold before it reaches the denominator. -/
def leadingZeros : Nat → Nat → Nat → Nat
  | 0, _, _ => 0
  | fuel + 1, num, den => if den ≤ num then 0 else leadingZeros fuel (num * 10) den + 1

/-- The decimal exponent of `num / den`: the `k` with `10 ^ k ≤ num / den < 10 ^ (k + 1)`. -/
def decimalExponent (num den : Nat) : Int :=
  if den ≤ num then ((Nat.toDigits 10 (num / den)).length : Int) - 1
  else -(leadingZeros 400 num den : Int)

/-- The decimal of `count` digits nearest to the value that lies in the interval, as digits and
the power of ten of the last one. -/
def ofLength? (even : Bool) (low value high den : Nat) (top : Int) (count : Nat) :
    Option (Nat × Int) :=
  let place : Int := top - (count : Int) + 1
  let (scaledDen, scale) : Nat × Nat :=
    if 0 ≤ place then (den * Nat.pow 10 place.toNat, 1) else (den, Nat.pow 10 (-place).toNat)
  let low := low * scale
  let value := value * scale
  let high := high * scale
  let under := value / scaledDen
  let above := under + 1
  let inside (d : Nat) : Bool :=
    if even then low ≤ d * scaledDen && d * scaledDen ≤ high
    else low < d * scaledDen && d * scaledDen < high
  let gapUnder := value - under * scaledDen
  let gapOver := above * scaledDen - value
  match inside under, inside above with
  | true, true =>
      if gapUnder < gapOver then some (under, place)
      else if gapOver < gapUnder then some (above, place)
      else some (if under % 2 = 0 then under else above, place)
  | true, false => some (under, place)
  | false, true => some (above, place)
  | false, false => none

/-- The shortest decimal that reads back as `m · 2 ^ e`. -/
def digits (m : Nat) (e : Int) : Nat × Int :=
  let (low, value, high, den) := interval m e
  let top := decimalExponent value den
  ((List.range 17).findSome? fun i =>
    ofLength? (m % 2 = 0) low value high den top (i + 1)).getD (value / den, 0)

end Shortest

/-- How the digits of a number are laid out. -/
structure Layout where
  /-- The least decimal exponent that is written positionally. -/
  lowest : Int
  /-- The first decimal exponent that is written with a mark again. -/
  highest : Int
  /-- The least number of digits of a written exponent. -/
  exponentWidth : Nat

/-- Numbers are positional from `0.0001` up to below `10 ^ 16`; exponents have two digits. -/
def Layout.standard : Layout := ⟨-4, 16, 2⟩

/-- Drop zeros at the end of the digits, moving the place of the last digit. -/
def trimZeros (ds : List Char) : List Char := (ds.reverse.dropWhile (· = '0')).reverse

/-- An exponent with its sign and at least the given number of digits. -/
def exponentText (width : Nat) (e : Int) : String :=
  let ds := Nat.repr e.natAbs
  let pad := String.ofList (List.replicate (width - ds.length) '0')
  (if e < 0 then "-" else "+") ++ pad ++ ds

/-- Lay out significant digits whose first one has the given decimal exponent. -/
def Layout.write (layout : Layout) (ds : List Char) (top : Int) : String :=
  if layout.lowest ≤ top ∧ top < layout.highest then
    if top < 0 then
      "0." ++ String.ofList (List.replicate (-top - 1).toNat '0' ++ ds)
    else
      let whole := top.toNat + 1
      let front := ds.take whole
      let back := ds.drop whole
      let front := front ++ List.replicate (whole - front.length) '0'
      String.ofList front ++ "." ++ (if back.isEmpty then "0" else String.ofList back)
  else
    let mantissa := match ds with
      | [] => "0"
      | [d] => String.singleton d
      | d :: rest => String.singleton d ++ "." ++ String.ofList rest
    mantissa ++ "e" ++ exponentText layout.exponentWidth top

end RouteDoc.Number

namespace RouteDoc

open Number

/-- The text of a number: the fewest digits that read back, in the standard layout. -/
def Binary64.text (x : Binary64) : String :=
  if x.isNaN then "nan"
  else
    let sign := if x.isNegative then "-" else ""
    match x.magnitude? with
    | none => sign ++ "inf"
    | some (0, _) => sign ++ "0.0"
    | some (m, e) =>
        let (digits, place) := Shortest.digits m e
        let ds := Nat.toDigits 10 digits
        sign ++ Layout.standard.write (trimZeros ds) (place + (ds.length : Int) - 1)

end RouteDoc
