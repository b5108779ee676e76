/-!
How alike two texts are. The longest block of characters that both hold is matched first, then what
stands before it with what stands before it, and what stands behind it likewise. Texts are close if
the matched characters make up three fifths of all their characters.
-/
namespace Provenance.Text

/-- The number of elements at the start of two lists that are the same. -/
def commonStart {α : Type} [DecidableEq α] : List α → List α → Nat
  | a :: as, b :: bs => if a = b then commonStart as bs + 1 else 0
  | _, _ => 0

/-- A block that stands in two lists: where it starts in either of them, and its length. -/
structure Block where
  inFirst : Nat
  inSecond : Nat
  size : Nat
  deriving DecidableEq, Repr

/-- The longest block of two lists. Among several, the one that starts first in the first list, and
then first in the second, is taken. -/
def longestBlock {α : Type} [DecidableEq α] (a b : List α) : Block :=
  let blocks := (List.range a.length).flatMap fun i =>
    (List.range b.length).map fun j => ⟨i, j, commonStart (a.drop i) (b.drop j)⟩
  blocks.foldl (fun best block => if best.size < block.size then block else best) ⟨0, 0, 0⟩

/-- The number of elements in matched blocks. -/
def matched {α : Type} [DecidableEq α] (a b : List α) : Nat :=
  let block := longestBlock a b
  if _h : 0 < block.size ∧ block.inFirst < a.length then
    matched (a.take block.inFirst) (b.take block.inSecond) + block.size +
      matched (a.drop (block.inFirst + block.size)) (b.drop (block.inSecond + block.size))
  else 0
termination_by a.length
decreasing_by
  all_goals
    simp only [block, List.length_take, List.length_drop] at _h ⊢
    omega

/-- Whether two texts are close. -/
def isClose (a b : String) : Bool :=
  3 * (a.length + b.length) ≤ 10 * matched a.toList b.toList

end Provenance.Text
