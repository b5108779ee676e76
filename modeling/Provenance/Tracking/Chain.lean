import Provenance.Trace

/-!
The dependency chain of a collect step as lines of text: the node first, then its ancestors from
the parent back to the root, each one level deeper. Indentation tells the level.
-/
namespace Provenance

/-- The number of spaces of one level. -/
def indentWidth : Nat := 2

/-- A line at a level. -/
def indented (level : Nat) (w : Wording) : Wording :=
  List.replicate (indentWidth * level) (.char ' ') ++ w

/-- What the line of an element says: its coordinates, and the context in parentheses. -/
def CollectStep.label (step : CollectStep) (element : Dependency) : Wording :=
  element.text ++ " (" ++ step.context ++ ")"

/-- The elements of a step from the node back to the root. -/
def CollectStep.leafFirst (step : CollectStep) : List Dependency :=
  step.node :: step.path.reverse

/-- The lines of a step. -/
def CollectStep.lines (step : CollectStep) : List Wording :=
  step.leafFirst.mapIdx fun level element => indented level (step.label element)

/-- The level of a line, and its text without the spaces in front. -/
def entryOf (line : Wording) : Nat × Wording :=
  let spaces := (line.takeWhile (· == .char ' ')).length
  (spaces / indentWidth, line.dropWhile (· == .char ' '))

end Provenance
