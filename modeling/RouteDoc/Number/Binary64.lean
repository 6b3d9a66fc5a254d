import RouteDoc.Number.Rounding
/-!
# RouteDoc.Number.Binary64

**Double-precision numbers as data**: the sixty-four bits of a value, read and written by exact
arithmetic on natural numbers.

The program stores, compares and prints such numbers but never calculates with them, so no
machine arithmetic is needed:

* `Binary64.ofRatio` rounds a quotient of natural numbers to the nearest value, a tie to the
  even neighbour;
* `Binary64.ofDecimal` does so for digits times a power of ten;
* `Binary64.magnitude?` gives a finite value back as an integer times a power of two.
-/

namespace RouteDoc

/-- A double-precision number, given by its bits: sign, eleven bits of exponent, fifty-two of
fraction. -/
structure Binary64 where
  /-- The bits, the sign first. -/
  bits : UInt64
deriving DecidableEq, Repr, Inhabited

namespace Binary64

/-- The bits of positive infinity. -/
def infinityBits : Nat := 0x7FF0000000000000

/-- Bits of a magnitude (everything but the sign), and the sign. -/
def ofMagnitudeBits (negative : Bool) (magnitude : Nat) : Binary64 :=
  ⟨UInt64.ofNat (if negative then magnitude + Nat.pow 2 63 else magnitude)⟩

/-- The one value that is not a number. -/
def nan : Binary64 := ⟨0x7FF8000000000000⟩

/-- Positive or negative infinity. -/
def infinity (negative : Bool) : Binary64 := ofMagnitudeBits negative infinityBits

/-- Positive or negative zero. -/
def zero (negative : Bool) : Binary64 := ofMagnitudeBits negative 0

/-- Whether the sign bit is set. -/
def isNegative (x : Binary64) : Bool := Nat.pow 2 63 ≤ x.bits.toNat

/-- The bits without the sign. -/
def magnitudeBits (x : Binary64) : Nat := x.bits.toNat % Nat.pow 2 63

/-- Whether the value is not a number. -/
def isNaN (x : Binary64) : Bool := infinityBits < x.magnitudeBits

/-- Whether the value is infinite. -/
def isInfinite (x : Binary64) : Bool := x.magnitudeBits = infinityBits

/-- The magnitude of a finite value as `m · 2 ^ e`: the pair of `m` and `e`. -/
def magnitude? (x : Binary64) : Option (Nat × Int) :=
  let magnitude := x.magnitudeBits
  let exponent : Nat := magnitude / Nat.pow 2 52
  let fraction : Nat := magnitude % Nat.pow 2 52
  if infinityBits ≤ magnitude then none
  else if exponent = 0 then some (fraction, -1074)
  else some (fraction + Nat.pow 2 52, Int.ofNat exponent - 1075)

/-- `num / den` scaled by `2 ^ (-e)`, as a new quotient. -/
def scaleBy (num den : Nat) (e : Int) : Nat × Nat :=
  if 0 ≤ e then (num, den * Nat.pow 2 e.toNat) else (num * Nat.pow 2 (-e).toNat, den)

/-- The value nearest to `num / den`, a tie to the even neighbour; beyond the largest finite
value it is infinite. -/
def ofRatio (negative : Bool) (num den : Nat) : Binary64 :=
  if num = 0 then zero negative
  else
    let guess : Int := (Nat.log2 num : Int) - Nat.log2 den - 52
    let (n, d) := scaleBy num den guess
    let tight := if n < d * Nat.pow 2 52 then guess - 1 else guess
    let e := max tight (-1074)
    let (n, d) := scaleBy num den e
    let magnitude := (e + 1074).toNat * Nat.pow 2 52 + Number.roundDiv n d
    ofMagnitudeBits negative (min magnitude infinityBits)

/-- The value nearest to `digits · 10 ^ exponent`. A power of ten far outside the range is
settled without being computed. -/
def ofDecimal (negative : Bool) (digits : Nat) (exponent : Int) : Binary64 :=
  if digits = 0 then zero negative
  else
    let places : Int := exponent + ((Nat.toDigits 10 digits).length : Int)
    if 400 < places then infinity negative
    else if places < -400 then zero negative
    else if 0 ≤ exponent then ofRatio negative (digits * Nat.pow 10 exponent.toNat) 1
    else ofRatio negative digits (Nat.pow 10 (-exponent).toNat)

/-- The integer that the value is, when it is one. -/
def toInt? (x : Binary64) : Option Int :=
  match x.magnitude? with
  | none => none
  | some (m, e) =>
      let whole : Option Nat :=
        if 0 ≤ e then some (m * Nat.pow 2 e.toNat)
        else
          let unit := Nat.pow 2 (-e).toNat
          if m % unit = 0 then some (m / unit) else none
      whole.map fun (n : Nat) => if x.isNegative then -(n : Int) else (n : Int)

end Binary64

end RouteDoc
