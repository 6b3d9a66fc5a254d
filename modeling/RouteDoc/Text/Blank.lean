import RouteDoc.Text.Ranges
/-!
# RouteDoc.Text.Blank

**White space**: the characters that are cut from the ends of texts and that separate words. It is
Unicode's white space together with the four separators of ASCII from `0x1C` to `0x1F`.
-/

namespace RouteDoc.Text

/-- White space outside ASCII. -/
def blankRanges : Ranges := #[
  (0x85, 0x85), (0xA0, 0xA0), (0x1680, 0x1680), (0x2000, 0x200A), (0x2028, 0x2029),
  (0x202F, 0x202F), (0x205F, 0x205F), (0x3000, 0x3000)]

/-- White space: what is cut from the ends of a text. -/
def isBlank (c : Char) : Bool :=
  if isAscii c then
    (9 ≤ c.toNat && c.toNat ≤ 13) || (28 ≤ c.toNat && c.toNat ≤ 32)
  else blankRanges.holds c

/-- Everything that core counts as white space is white space here. -/
theorem isBlank_of_isWhitespace {c : Char} (h : c.isWhitespace = true) : isBlank c = true := by
  simp only [Char.isWhitespace, Bool.or_eq_true, decide_eq_true_eq] at h
  rcases h with ((h | h) | h) | h <;> subst h <;> decide

/-- White space comes before the letters of ASCII, or behind them all. -/
theorem isBlank_of_isAlpha {c : Char} (h : c.isAlpha = true) : isBlank c = false := by
  have hcode : 65 ≤ c.toNat ∧ c.toNat ≤ 122 := by
    rcases Bool.or_eq_true_iff.1 h with hupper | hlower
    · have hbounds : 'A'.val ≤ c.val ∧ c.val ≤ 'Z'.val := of_decide_eq_true hupper
      have hlow : 65 ≤ c.toNat := UInt32.le_iff_toNat_le.1 hbounds.1
      have hhigh : c.toNat ≤ 90 := UInt32.le_iff_toNat_le.1 hbounds.2
      omega
    · have hbounds := Bool.and_eq_true_iff.1 hlower
      have hlow : 97 ≤ c.toNat := UInt32.le_iff_toNat_le.1 (of_decide_eq_true hbounds.1)
      have hhigh : c.toNat ≤ 122 := UInt32.le_iff_toNat_le.1 (of_decide_eq_true hbounds.2)
      omega
  have hascii : isAscii c = true := by
    rw [isAscii, decide_eq_true_eq]
    omega
  rw [isBlank, if_pos hascii]
  simp only [Bool.or_eq_false_iff, Bool.and_eq_false_iff, decide_eq_false_iff_not]
  omega

end RouteDoc.Text
