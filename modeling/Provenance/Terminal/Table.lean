import Provenance.Terminal.Styled
import Provenance.Terminal.Wrap
import Provenance.Text.Lines

/-!
Tables with a heavy frame around the header and a light one around the rows, where the terminal has
characters for them. Columns are as wide as their widest cell; if that is too wide, the widest
columns give way first.
-/
namespace Provenance.Terminal

/-- A column: its header, the side its cells are filled on, and its cells. -/
structure Column where
  header : String
  justify : Justify
  cells : List String
  deriving Repr

/-- The cells that stand on the two sides of the text of a cell. -/
def padding : Nat := 2

/-- The header and the cells as they are shown. -/
def Column.texts (screen : Screen) (c : Column) : List String :=
  (c.header :: c.cells).map (plain screen)

/-- The cells of the widest line of a text. -/
def lineWidth (s : String) : Nat :=
  ((Text.splitLines (withoutControls s.toList)).map Text.cells).foldl max 0

/-- The width that a column asks for when it may have `available` cells. -/
def Column.measure (screen : Screen) (c : Column) (available : Nat) : Nat :=
  if available = 0 then 0
  else if available ≤ padding then available
  else min available (((c.texts screen).map lineWidth).foldl max 0 + padding)

/-- A quotient rounded to the nearest number, a half to the even one. -/
def roundDiv (a b : Nat) : Nat :=
  let q := a / b
  let r := a % b
  if 2 * r < b then q else if b < 2 * r then q + 1 else if q % 2 = 0 then q else q + 1

/-- Takes `total` away from values in proportion to their ratios, none more than its maximum. The
lists are read side by side; `ratioSum` is the sum of the ratios that are left. -/
def reduce : Nat → Nat → List (Nat × Nat × Nat) → List Nat
  | _, _, [] => []
  | total, ratioSum, (ratio, most, value) :: rest =>
    if ratio ≠ 0 ∧ 0 < ratioSum then
      let share := min most (roundDiv (ratio * total) ratioSum)
      (value - share) :: reduce (total - share) (ratioSum - ratio) rest
    else value :: reduce total ratioSum rest

/-- Takes `total` away from values whose ratio and maximum are not zero. -/
def reduceBy (total : Nat) (items : List (Nat × Nat × Nat)) : List Nat :=
  let items := items.map fun (ratio, most, value) => (if most = 0 then 0 else ratio, most, value)
  let ratioSum := Text.sumOf (items.map (·.1))
  if ratioSum = 0 then items.map (·.2.2) else reduce total ratioSum items

/-- Makes the widest values smaller, down to the next smaller ones, until their sum is at most
`most` or all are equal. Every round takes something away, which `rounds` counts. -/
def collapse (most : Nat) : Nat → List Nat → List Nat
  | 0, widths => widths
  | rounds + 1, widths =>
    let excess := Text.sumOf widths - most
    if excess = 0 then widths
    else
      let widest := widths.foldl max 0
      let second := (widths.filter (· ≠ widest)).foldl max 0
      if widest = second ∨ widths = [] then widths
      else
        let limit := min excess (widest - second)
        collapse most rounds
          (reduceBy excess (widths.map fun w => (if w = widest then 1 else 0, limit, w)))

/-- The widths of columns that may have `most` cells together. -/
def columnWidths (screen : Screen) (most : Nat) (columns : List Column) : List Nat :=
  let widths := columns.map fun c => max 1 (c.measure screen most)
  if Text.sumOf widths ≤ most then widths
  else
    let widths := collapse most (Text.sumOf widths) widths
    let widths :=
      if Text.sumOf widths ≤ most then widths
      else reduceBy (Text.sumOf widths - most) (widths.map fun w => (1, w, w))
    (columns.zip widths).map fun (c, w) => c.measure screen w

/-- The lines of a cell in a column of a width. -/
def cellLines (width : Nat) (justify : Justify) (s : String) : List (List Char) :=
  (wrap (width - padding) justify .ellipsis s).map fun line =>
    ' ' :: Text.fitCells (width - padding) line ++ [' ']

/-- Cells side by side: each is as high as the highest, with blank lines above it or below it. -/
def rowLines (atBottom : Bool) (side : Char) (cells : List (Nat × List (List Char))) :
    List (List Char) :=
  let height := (cells.map fun cell => cell.2.length).foldl max 1
  let shaped := cells.map fun (width, lines) =>
    let blank := List.replicate (height - lines.length) (List.replicate width ' ')
    (if atBottom then blank ++ lines else lines ++ blank).map (Text.fitCells width)
  (List.range height).map fun i =>
    side :: ([side].intercalate (shaped.map fun lines => lines.getD i []) ++ [side])

/-- The characters of one line of a frame. -/
structure Rule where
  left : Char
  bar : Char
  divider : Char
  right : Char

/-- The characters of the frame of a table: the three rules, and the sides and dividers of the
header and of the rows. -/
structure TableFrame where
  top : Rule
  middle : Rule
  bottom : Rule
  head : Char
  body : Char

/-- The frame of tables on a terminal. -/
def TableFrame.on (screen : Screen) : TableFrame :=
  if screen.isUnicode then
    ⟨⟨'┏', '━', '┳', '┓'⟩, ⟨'┡', '━', '╇', '┩'⟩, ⟨'└', '─', '┴', '┘'⟩, '┃', '│'⟩
  else ⟨⟨'+', '-', '-', '+'⟩, ⟨'|', '-', '+', '|'⟩, ⟨'+', '-', '-', '+'⟩, '|', '|'⟩

/-- A rule over columns of the given widths. -/
def Rule.line (rule : Rule) (widths : List Nat) : List Char :=
  rule.left ::
    ([rule.divider].intercalate (widths.map fun w => List.replicate w rule.bar) ++ [rule.right])

/-- The lines of a table. -/
def table (screen : Screen) (columns : List Column) : List (List Char) :=
  let frame := TableFrame.on screen
  let widths := columnWidths screen (screen.width - (columns.length + 1)) columns
  let drawn := (columns.zip widths).map fun (c, w) =>
    (w, (c.texts screen).map (cellLines w c.justify))
  let row (i : Nat) : List (Nat × List (List Char)) :=
    drawn.map fun (w, cells) => (w, cells.getD i [])
  let count := (columns.map fun c => c.cells.length).foldl max 0
  let body := (List.range count).flatMap fun i => rowLines false frame.body (row (i + 1))
  let lines := [frame.top.line widths] ++ rowLines true frame.head (row 0) ++
    [frame.middle.line widths] ++ body ++ [frame.bottom.line widths]
  lines.map fun line =>
    if Text.cells line ≤ screen.width then line else Text.fitCells screen.width line

end Provenance.Terminal
