import RouteDoc.Text.Ranges
/-!
# RouteDoc.Terminal.Width

**The width of texts on a terminal.** East Asian characters and pictures take two columns, marks that
are put over the character before them take none, and all others take one.
-/

namespace RouteDoc.Terminal

open RouteDoc.Text

/-- Characters that take two columns. -/
def wideRanges : Ranges := #[
  (0x1100, 0x115F), (0x231A, 0x231B), (0x2329, 0x232A), (0x23E9, 0x23EC), (0x2614, 0x2615),
  (0x26A1, 0x26A1), (0x2705, 0x2705), (0x2728, 0x2728), (0x274C, 0x274C), (0x2E80, 0x303E),
  (0x3041, 0x33FF), (0x3400, 0x4DBF), (0x4E00, 0xA4CF), (0xA960, 0xA97C), (0xAC00, 0xD7A3),
  (0xF900, 0xFAFF), (0xFE10, 0xFE19), (0xFE30, 0xFE6F), (0xFF00, 0xFF60), (0xFFE0, 0xFFE6),
  (0x16FE0, 0x18CD5), (0x1B000, 0x1B2FB), (0x1F300, 0x1F64F), (0x1F680, 0x1F6FC),
  (0x1F900, 0x1F9FF), (0x1FA70, 0x1FAFF), (0x20000, 0x3FFFD)]

/-- Characters that take no column. -/
def emptyRanges : Ranges := #[
  (0x300, 0x36F), (0x483, 0x489), (0x591, 0x5BD), (0x610, 0x61A), (0x64B, 0x65F),
  (0x200B, 0x200F), (0x202A, 0x202E), (0x2060, 0x2063), (0x20D0, 0x20F0), (0xFE00, 0xFE0F),
  (0xFE20, 0xFE2F)]

/-- The columns that a character takes. -/
def charWidth (c : Char) : Nat :=
  if isAscii c then 1 else if wideRanges.holds c then 2 else if emptyRanges.holds c then 0 else 1

/-- The columns that characters take. -/
def widthOf (cs : List Char) : Nat :=
  cs.foldl (fun width c => width + charWidth c) 0

/-- The longest start of a text that takes at most so many columns. -/
def takeWidth : Nat → List Char → List Char
  | _, [] => []
  | room, c :: rest =>
      if charWidth c ≤ room then c :: takeWidth (room - charWidth c) rest else []

/-- So many blanks. -/
def blanks (n : Nat) : List Char := List.replicate n ' '

/-- A text cut or filled up to a width. -/
def fitWidth (width : Nat) (cs : List Char) : List Char :=
  let part := takeWidth width cs
  part ++ blanks (width - widthOf part)

end RouteDoc.Terminal
