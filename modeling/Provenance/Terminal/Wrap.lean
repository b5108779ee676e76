import Provenance.Text.Blank
import Provenance.Text.Cells
import Provenance.Text.Fields

/-!
Breaking text into lines for a terminal. Lines break before words; a word keeps the blanks after
it. What does not fit into a line at all is cut into pieces, or cropped, as asked for.
-/
namespace Provenance.Terminal

/-- What becomes of a word that is wider than a line. -/
inductive Overflow where
  | fold | ellipsis
  deriving DecidableEq, Repr

/-- On which side the text of a line is filled up. `ragged` lines are not filled. -/
inductive Justify where
  | ragged | left | right
  deriving DecidableEq, Repr

/-- The text without the controls that a terminal would act on. -/
def withoutControls (s : List Char) : List Char :=
  s.filter fun c => !([7, 8, 11, 12, 13].contains c.toNat)

/-- The text with spaces for tabs, up to the next multiple of eight cells. -/
def expandTabs (column : Nat) : List Char → List Char
  | [] => []
  | c :: rest =>
    if c = '\t' then
      let next := (column / 8 + 1) * 8
      List.replicate (next - column) ' ' ++ expandTabs next rest
    else c :: expandTabs (column + Text.cellsOfChar c) rest

/-- The words of a line, each with the blanks after it, and the first also with those before it.
A line of blanks has none. -/
def words (s : List Char) : List (List Char) :=
  let blanks := s.takeWhile Text.isBlank
  match _h : s.dropWhile Text.isBlank with
  | [] => []
  | c :: rest =>
    let word := c :: rest.takeWhile (!Text.isBlank ·)
    let after := rest.dropWhile (!Text.isBlank ·)
    (blanks ++ word ++ after.takeWhile Text.isBlank) :: words (after.dropWhile Text.isBlank)
termination_by s.length
decreasing_by
  have shorter (p : Char → Bool) (l : List Char) : (l.dropWhile p).length ≤ l.length :=
    (List.dropWhile_sublist p).length_le
  have whole := shorter Text.isBlank s
  have first := shorter (!Text.isBlank ·) rest
  have second := shorter Text.isBlank (rest.dropWhile (!Text.isBlank ·))
  rw [_h, List.length_cons] at whole
  omega

/-- Lines in the making: those that are complete, last first, the one at hand, and its width. -/
structure Breaking where
  complete : List (List Char)
  line : List Char
  width : Nat
  deriving Repr

namespace Breaking

/-- Whether anything has been put on a line yet. -/
def isStarted (b : Breaking) : Bool := !b.complete.isEmpty || !b.line.isEmpty

/-- Completes the line at hand, if there is one. -/
def finish (b : Breaking) : List (List Char) :=
  if b.isStarted then b.line :: b.complete else b.complete

/-- Puts one word on the line at hand if it fits there, and else on lines of its own. -/
def addWord (width : Nat) (overflow : Overflow) (b : Breaking) (word : List Char) : Breaking :=
  let size := Text.cells (Text.trimEndWhile Text.isBlank word)
  if b.width + size ≤ width then ⟨b.complete, b.line ++ word, b.width + Text.cells word⟩
  else if width < size then
    match overflow with
    | .fold =>
      let pieces := Text.chop width word
      let last := pieces.getLastD []
      ⟨pieces.dropLast.reverse ++ b.finish, last, Text.cells last⟩
    | .ellipsis => ⟨b.finish, word, Text.cells word⟩
  else if b.width ≠ 0 ∧ b.isStarted then ⟨b.finish, word, Text.cells word⟩
  else ⟨b.complete, b.line ++ word, b.width⟩

end Breaking

/-- The lines of one line of text. -/
def breakLine (width : Nat) (overflow : Overflow) (s : List Char) : List (List Char) :=
  match words s with
  | [] => [s]
  | ws =>
    let b := ws.foldl (Breaking.addWord width overflow) ⟨[], [], 0⟩
    (b.line :: b.complete).reverse

/-- The line without the trailing blanks that stand beyond a number of characters. -/
def trimBeyond (width : Nat) (s : List Char) : List Char :=
  let blanks := s.length - (Text.trimEndWhile Text.isBlank s).length
  s.take (s.length - min blanks (s.length - width))

/-- The line cut to a width if it is wider. -/
def truncate (width : Nat) (overflow : Overflow) (s : List Char) : List Char :=
  if Text.cells s ≤ width then s
  else
    match overflow with
    | .fold => Text.fitCells width s
    | .ellipsis => Text.fitCells (width - 1) s ++ ['…']

/-- The line filled up to a width as asked for. -/
def justifyLine (width : Nat) (justify : Justify) (overflow : Overflow) (s : List Char) :
    List Char :=
  match justify with
  | .ragged => truncate width overflow s
  | .left => Text.padCells width (truncate width overflow s)
  | .right =>
    let s := truncate width overflow (Text.trimEndWhile Text.isBlank s)
    List.replicate (width - Text.cells s) ' ' ++ s

/-- The lines of a text on a terminal of a width. Without any width there are none. -/
def wrap (width : Nat) (justify : Justify) (overflow : Overflow) (s : String) :
    List (List Char) :=
  if width = 0 then []
  else
    (Text.splitAt '\n' (withoutControls s.toList)).flatMap fun line =>
      let line := if line.contains '\t' then expandTabs 0 line else line
      (breakLine width overflow line).map fun piece =>
        justifyLine width justify overflow (trimBeyond width piece)

/-- A text as lines that are wrapped at a width and not filled. -/
def flow (width : Nat) (s : String) : List (List Char) :=
  wrap width .ragged .fold s

/-- Lines as one text, each with a line feed after it. -/
def unlines (lines : List (List Char)) : String :=
  String.ofList (lines.flatMap (· ++ ['\n']))

end Provenance.Terminal
