/-!
# RouteDoc.Text.Ranges

**Sets of characters given by ranges of code points.** The Unicode properties that the program
needs are tables of such ranges, in ascending order; the characters below 128 are never looked up
in a table, so each property has a rule for ASCII that a proof can use by itself.
-/

namespace RouteDoc.Text

/-- Ranges of code points, both ends included. -/
abbrev Ranges := Array (Nat × Nat)

/-- Whether one of the ranges holds the character. -/
def Ranges.holds (ranges : Ranges) (c : Char) : Bool :=
  ranges.any fun r => r.1 ≤ c.toNat && c.toNat ≤ r.2

/-- Whether the character is one of the 128 of ASCII. -/
def isAscii (c : Char) : Bool := c.toNat < 128

end RouteDoc.Text
