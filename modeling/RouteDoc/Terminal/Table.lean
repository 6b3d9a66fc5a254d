import RouteDoc.Number.Rounding
import RouteDoc.Terminal.Wrap
/-!
# RouteDoc.Terminal.Table

**Tables on a terminal.** A table has a heavy frame around its headers, a light one around its rows, and
a title above its middle.

A column is as wide as its widest cell. Where all of them together are too wide, the widest columns
give way first until they are as wide as the next ones (`collapse`); cells are then broken at words,
and words that still do not fit are cut.
-/

namespace RouteDoc.Terminal

open RouteDoc.Text RouteDoc.Number

/-! ### Widths of columns -/

/-- The width of columns together. -/
def total (widths : List Nat) : Nat := widths.foldl (· + ·) 0

/-- Take an excess off some of the widths in equal shares, at most so much off each. -/
def reduceShares (most : Nat) : Nat → Nat → List (Nat × Bool) → List Nat
  | _, _, [] => []
  | excess, shares, (width, takes) :: rest =>
      if takes && shares ≠ 0 then
        let part := min most (roundDiv excess shares)
        (width - part) :: reduceShares most (excess - part) (shares - 1) rest
      else width :: reduceShares most excess shares rest

/-- Make the widest columns narrower until all of them fit into a width. -/
def collapse : Nat → Nat → List Nat → List Nat
  | 0, _, widths => widths
  | fuel + 1, room, widths =>
      if total widths ≤ room then widths
      else
        let excess := total widths - room
        let widest := widths.foldl max 0
        let second := (widths.filter (· ≠ widest)).foldl max 0
        if widest = second then widths
        else
          let marked := widths.map fun w => (w, decide (w = widest))
          let shares := (widths.filter (· = widest)).length
          collapse fuel room (reduceShares (min excess (widest - second)) excess shares marked)

/-- The width of a text: that of its widest line. -/
def textWidth (s : String) : Nat :=
  ((s.toList.splitOn '\n').map widthOf).foldl max 0

/-- The blanks around a cell. -/
def cellPadding : Nat := 2

/-- The widths of columns with these headers and rows. -/
def columnWidths (headers : List String) (rows : List (List String)) : List Nat :=
  let room := columns - (headers.length + 1)
  let cell (row : List String) (i : Nat) : Nat := textWidth (row[i]?.getD "") + cellPadding
  let natural := (List.range headers.length).map fun i =>
    min room (((headers :: rows).map fun row => cell row i).foldl max 0)
  collapse (total natural + 1) room natural

/-! ### Lines of tables -/

/-- The characters of a frame's line: left end, filling, crossing and right end. -/
structure FrameLine where
  /-- The left end. -/
  left : Char
  /-- What runs along the cells. -/
  fill : Char
  /-- What stands between two cells. -/
  cross : Char
  /-- The right end. -/
  right : Char

/-- The line above the headers. -/
def topLine : FrameLine := ⟨'┏', '━', '┳', '┓'⟩

/-- The line below the headers. -/
def headLine : FrameLine := ⟨'┡', '━', '╇', '┩'⟩

/-- The line below the rows. -/
def bottomLine : FrameLine := ⟨'└', '─', '┴', '┘'⟩

/-- The sides of cells in the headers. -/
def headSide : FrameLine := ⟨'┃', ' ', '┃', '┃'⟩

/-- The sides of cells in the rows. -/
def rowSide : FrameLine := ⟨'│', ' ', '│', '│'⟩

/-- Put cells of one line into a frame. -/
def frameCells (f : FrameLine) (cells : List (List Char)) : List Char :=
  f.left :: (cells.intersperse [f.cross]).flatten ++ [f.right]

/-- A line of a frame along columns. -/
def frameLine (f : FrameLine) (widths : List Nat) : List Char :=
  frameCells f (widths.map fun w => List.replicate w f.fill)

/-- The lines of a cell in a column. -/
def cellLines (width : Nat) (s : String) : List (List Char) :=
  let inner := width - cellPadding
  (wrap false inner s).map fun line => ' ' :: cutLine inner line ++ [' ']

/-- The lines of a row. -/
def rowLines (f : FrameLine) (widths : List Nat) (row : List String) : List (List Char) :=
  let cells := widths.zipWith (fun w s => (w, cellLines w s)) row
  let height := (cells.map fun c => c.2.length).foldl max 1
  (List.range height).map fun i =>
    frameCells f (cells.map fun (w, lines) => lines[i]?.getD (blanks w))

/-- A table as it is shown. -/
def table (title : String) (headers : List String) (rows : List (List String)) : String :=
  let headers := headers.map unstyled
  let rows := rows.map fun row => row.map unstyled
  let widths := columnWidths headers rows
  let width := total widths + headers.length + 1
  joinLines <|
    (wrap true width (unstyled title)).map (centred width)
      ++ [frameLine topLine widths] ++ rowLines headSide widths headers
      ++ [frameLine headLine widths] ++ rows.flatMap (rowLines rowSide widths)
      ++ [frameLine bottomLine widths]

end RouteDoc.Terminal
