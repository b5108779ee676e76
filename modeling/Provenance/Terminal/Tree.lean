import Provenance.Terminal.Screen
import Provenance.Terminal.Wrap

/-!
A tree in which every node has one child at most, drawn with a guide in front of each node below
the root.
-/
namespace Provenance.Terminal

/-- The cells of one level of guides. -/
def guideWidth : Nat := 4

/-- The guide to a node. -/
def guide (screen : Screen) : List Char :=
  if screen.isUnicode then ['└', '─', '─', ' '] else ['\x60', '-', '-', ' ']

/-- The guides in front of the first and of the other lines of a node. -/
def guides (screen : Screen) : Nat → List Char × List Char
  | 0 => ([], [])
  | level + 1 =>
    let indent := List.replicate (guideWidth * level) ' '
    (indent ++ guide screen, indent ++ List.replicate guideWidth ' ')

/-- The lines of a node at a level. -/
def node (screen : Screen) (level : Nat) (label : String) : List (List Char) :=
  let (first, others) := guides screen level
  match flow (screen.width - guideWidth * level) label with
  | [] => []
  | line :: lines => (first ++ line) :: lines.map (others ++ ·)

/-- The lines of a chain of nodes, the root first. -/
def chain (screen : Screen) (labels : List String) : List (List Char) :=
  (labels.mapIdx fun level label => node screen level label).flatten

end Provenance.Terminal
