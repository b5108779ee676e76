import Provenance.Terminal.Styled
import Provenance.Terminal.Wrap

/-!
A panel: a text in a frame that fills the width. The frame has round corners where the terminal has
characters for them.
-/
namespace Provenance.Terminal

/-- The characters of a frame around a panel. -/
structure PanelFrame where
  topLeft : Char
  topRight : Char
  bottomLeft : Char
  bottomRight : Char
  bar : Char
  side : Char

/-- The frame around panels on a terminal. -/
def PanelFrame.on (screen : Screen) : PanelFrame :=
  if screen.isUnicode then ⟨'╭', '╮', '╰', '╯', '─', '│'⟩ else ⟨'+', '+', '+', '+', '-', '|'⟩

/-- The lines of a panel. -/
def panel (screen : Screen) (s : String) : List (List Char) :=
  let frame := PanelFrame.on screen
  let bar := List.replicate (screen.width - 2) frame.bar
  let inner := screen.width - 4
  let body := (wrap inner .ragged .fold (plain screen s)).map fun line =>
    [frame.side, ' '] ++ Text.fitCells inner line ++ [' ', frame.side]
  ([frame.topLeft] ++ bar ++ [frame.topRight]) :: body ++
    [[frame.bottomLeft] ++ bar ++ [frame.bottomRight]]

end Provenance.Terminal
