import Provenance.CommandLine.Command
import Provenance.Terminal.Wrap

/-!
Help pages.
-/
namespace Provenance.CommandLine

/-- The width of a help page: at least fifty characters, at most seventy-eight, and else two less
than the terminal has. -/
def pageWidth (columns : Nat) : Nat :=
  max (min columns 80 - 2) 50

/-- The text in lines of at most the given width, without blanks at their ends. -/
def fill (width : Nat) (s : String) : List String :=
  (Terminal.flow width s).map fun line => String.ofList (Text.trimEndWhile Text.isBlank line)

/-- A number of spaces. -/
def spaces (n : Nat) : String := String.ofList (List.replicate n ' ')

/-- The lines of a paragraph. -/
def Paragraph.lines (width : Nat) : Paragraph → List String
  | .flowing s => (fill (width - 2) s).map ("  " ++ ·)
  | .fixed lines => lines.map ("  " ++ ·)

/-- The lines of terms with their descriptions, in two columns. -/
def twoColumns (width : Nat) (rows : List (String × String)) : List String :=
  let first := (rows.map fun row => row.1.length).foldl max 0 + 2
  rows.flatMap fun (term, description) =>
    (fill (max (width - first - 2) 10) description).mapIdx fun i line =>
      let term := if i = 0 then term else ""
      "  " ++ term ++ spaces (first - term.length) ++ line

/-- A sentence, or as many of its words as fit into a number of characters with three dots. -/
def abbreviate (most : Nat) (s : String) : String :=
  if s.length ≤ most then s
  else
    let words := Text.fieldsOf ' ' s
    let shorter := (List.range words.length).reverse.map fun n =>
      Text.ofFields ' ' (words.take n) ++ "..."
    (shorter.find? fun s => s.length ≤ most).getD "..."

/-- An option with its description. -/
def Opt.row (option : Opt) : String × String :=
  (", ".intercalate (option.short?.toList ++ [option.long]) ++
    option.takes?.elim "" (" " ++ ·.placeholder), option.description)

/-- The commands with their descriptions, cut to the width. -/
def commandRows (width : Nat) : List (String × String) :=
  let longest := (Command.all.map fun c => c.name.length).foldl max 0
  Command.all.map fun c => (c.name, abbreviate (width - 6 - longest) c.summary)

namespace Callee

/-- The lines of a help page. -/
def pageLines (width : Nat) (callee : Callee) : List String :=
  [callee.usage] ++
    callee.about.flatMap (fun paragraph => "" :: paragraph.lines width) ++
    ["", "Options:"] ++ twoColumns width (callee.options.map Opt.row) ++
    (if callee = .program then ["", "Commands:"] ++ twoColumns width (commandRows width) else [])

/-- A help page for a terminal. -/
def page (columns : Nat) (callee : Callee) : String :=
  String.join ((callee.pageLines (pageWidth columns)).map (· ++ "\n"))

end Callee

end Provenance.CommandLine
