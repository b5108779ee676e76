import Mathlib.Data.List.Infix
import Mathlib.Data.Option.Basic
import Provenance.Proofs.Text.Wording
import Provenance.Tracking.Record

/-!
The chain of a step told from its lines. Indentation and label never mix, so a line gives back its
level and its label (`entryOf_indented`), and a label cut at its first opening parenthesis gives
back the coordinates and the context (`readLabel_label`). Hence a record of the lines of a step
shows the whole chain, and steps with the same lines have the same chain (`entries_tell_chain`).
-/
namespace Provenance

/-! ## Labels -/

namespace Wording

/-- What opens the context in a label. -/
def opening : Wording := [.char ' ', .char '(']

/-- What stands before the first place where a context is opened, and what stands behind it. -/
def cutAtOpening : Wording → Option (Wording × Wording)
  | [] => none
  | mark :: rest =>
    if opening <+: mark :: rest then some ([], rest.drop 1)
    else (cutAtOpening rest).map fun (before, behind) => (mark :: before, behind)

/-- A wording in which no context is opened ends where the first one is. A blank at its end does not
open the context together with the parenthesis behind it, since another blank stands between. -/
theorem cutAtOpening_append {w : Wording} (closed : ¬opening <:+: w) (rest : Wording) :
    cutAtOpening (w ++ opening ++ rest) = some (w, rest) := by
  induction w with
  | nil => simp [opening, cutAtOpening]
  | cons mark w ih =>
    have inside : ¬opening <:+: w := fun inner => closed (List.infix_cons inner)
    have here : ¬opening <+: mark :: (w ++ opening ++ rest) := by
      intro opened
      cases w with
      | nil => simp [opening] at opened
      | cons next w =>
        simp only [opening, List.cons_append, List.cons_prefix_cons] at opened
        obtain ⟨rfl, rfl, _⟩ := opened
        apply closed
        exact ⟨[], w, rfl⟩
    rw [List.cons_append, List.cons_append, cutAtOpening, if_neg here, ih inside]
    rfl

end Wording

/-- The coordinates and the context that a label shows. -/
def readLabel (label : Wording) : Option (Wording × Wording) :=
  label.cutAtOpening.map fun (coordinates, behind) => (coordinates, behind.dropLast)

/-- A label is read as it was written, whatever the context is. -/
theorem readLabel_label {step : CollectStep} {element : Dependency}
    (closed : ¬Wording.opening <:+: (element.text : Wording)) :
    readLabel (step.label element) = some (↑element.text, step.context) := by
  have marks : step.label element =
      (element.text : Wording) ++ Wording.opening ++ (step.context ++ [.char ')']) := by
    simp [CollectStep.label, Wording.opening]
  rw [readLabel, marks, Wording.cutAtOpening_append closed]
  simp

/-! ## Indentation -/

/-- A line gives its level and its text back if the text does not begin with a space. -/
theorem entryOf_indented (level : Nat) {w : Wording} (flush : w.head? ≠ some (.char ' ')) :
    entryOf (indented level w) = (level, w) := by
  have spaces : ∀ mark ∈ List.replicate (indentWidth * level) (Mark.char ' '),
      (mark == .char ' ') = true := by
    intro mark member
    rw [List.eq_of_mem_replicate member]
    rfl
  have stop : w.takeWhile (· == .char ' ') = [] ∧ w.dropWhile (· == .char ' ') = w := by
    cases w with
    | nil => simp
    | cons mark rest =>
      have other : mark ≠ .char ' ' := by simpa using flush
      simp [other]
  simp only [entryOf, indented, List.takeWhile_append_of_pos spaces,
    List.dropWhile_append_of_pos spaces, stop, List.append_nil, List.length_replicate]
  simp [indentWidth]

/-- Coordinates begin with the group, and a colon follows. -/
theorem Artifact.text_begins (a : Artifact) :
    ∃ rest, a.text.toList = a.group.toList ++ ':' :: rest := by
  simp [text, fields, Text.ofFields, Text.joinWith]

/-! ## Chains -/

namespace CollectStep

/-- No coordinates of a step begin with a space or open a context. -/
structure IsLegible (step : CollectStep) : Prop where
  flush : ∀ element ∈ step.leafFirst, element.artifact.group.toList.head? ≠ some ' '
  closed : ∀ element ∈ step.leafFirst, ¬Wording.opening <:+: (element.text : Wording)

instance (step : CollectStep) : Decidable step.IsLegible :=
  decidable_of_iff
    ((∀ element ∈ step.leafFirst, element.artifact.group.toList.head? ≠ some ' ') ∧
      ∀ element ∈ step.leafFirst, ¬Wording.opening <:+: (element.text : Wording))
    ⟨fun ⟨flush, closed⟩ => ⟨flush, closed⟩, fun legible => ⟨legible.flush, legible.closed⟩⟩

theorem head?_label (step : CollectStep) {element : Dependency}
    (flush : element.artifact.group.toList.head? ≠ some ' ') :
    (step.label element).head? ≠ some (.char ' ') := by
  obtain ⟨rest, text⟩ := element.artifact.text_begins
  simp only [label, Dependency.text, text]
  cases group : element.artifact.group.toList with
  | nil => simp
  | cons c tail =>
    rw [group] at flush
    simpa using flush

/-- The entries of the lines of a step are its elements, each with its distance from the node. -/
theorem entries_lines {step : CollectStep} (legible : step.IsLegible) :
    step.lines.map entryOf = step.leafFirst.mapIdx fun level element =>
      (level, step.label element) := by
  apply List.ext_getElem
  · simp [lines]
  · intro level bound _
    have inside : level < step.leafFirst.length := by simpa [lines] using bound
    have flush := step.head?_label (legible.flush _ (List.getElem_mem inside))
    simp only [List.getElem_map, List.getElem_mapIdx, lines]
    exact entryOf_indented level flush

/-- Steps with the same lines show the same label for each element. -/
theorem labels_of_lines {step other : CollectStep} (same : step.lines = other.lines) :
    step.leafFirst.map step.label = other.leafFirst.map other.label := by
  apply List.ext_getElem?
  intro level
  have line : step.lines[level]? = other.lines[level]? := by rw [same]
  simp only [lines, List.getElem?_mapIdx] at line
  rw [List.getElem?_map, List.getElem?_map]
  cases one : step.leafFirst[level]? with
  | none => cases two : other.leafFirst[level]? <;> simp_all
  | some element =>
    cases two : other.leafFirst[level]? with
    | none => simp_all
    | some twin =>
      simp only [one, two, Option.map_some, Option.some.injEq, indented] at line
      simpa using line

/-- What the labels of a legible step are read as. -/
theorem readLabel_leafFirst {step : CollectStep} (legible : step.IsLegible) :
    (step.leafFirst.map step.label).map readLabel =
      (step.leafFirst.map fun element => ((element.text : Wording), step.context)).map some := by
  rw [List.map_map, List.map_map]
  apply List.map_congr_left
  intro element member
  rw [Function.comp_apply, readLabel_label (legible.closed element member)]
  rfl

/-- Legible steps with the same lines have the same context, and elements with the same coordinates
in the same places. -/
theorem eq_of_lines {step other : CollectStep} (legible : step.IsLegible)
    (legible' : other.IsLegible) (same : step.lines = other.lines) :
    step.context = other.context ∧
      step.leafFirst.map Dependency.text = other.leafFirst.map Dependency.text := by
  have read : step.leafFirst.map (fun element => ((element.text : Wording), step.context)) =
      other.leafFirst.map fun element => ((element.text : Wording), other.context) := by
    apply List.map_injective_iff.mpr (Option.some_injective _)
    rw [← readLabel_leafFirst legible, labels_of_lines same, readLabel_leafFirst legible']
  constructor
  · simp only [leafFirst, List.map_cons, List.cons.injEq, Prod.mk.injEq] at read
    exact read.1.2
  · have texts := congrArg (List.map Prod.fst) read
    rw [List.map_map, List.map_map] at texts
    refine List.map_injective_iff.mpr Wording.ofString_injective ?_
    simpa only [List.map_map, Function.comp_def] using texts

end CollectStep

/-- The entries of a record of the lines of a step are the node and then its ancestors from the
parent back to the root, each with its distance from the node and its label. A label gives the
coordinates and the context back, so that no two legible steps with different chains have the same
lines. -/
theorem entries_tell_chain {step : CollectStep} (legible : step.IsLegible) :
    (∀ rootKey, (Record.mk rootKey step.lines).entries =
        (0, step.node.text ++ " (" ++ step.context ++ ")") ::
          step.path.reverse.mapIdx (fun above ancestor =>
            (above + 1, ancestor.text ++ " (" ++ step.context ++ ")")) ∧
        (Record.mk rootKey step.lines).depth = step.path.length) ∧
      (∀ element ∈ step.leafFirst, readLabel (element.text ++ " (" ++ step.context ++ ")") =
        some (↑element.text, step.context)) ∧
      ∀ other : CollectStep, other.IsLegible → other.lines = step.lines →
        other.context = step.context ∧ other.path.length = step.path.length ∧
          other.node.text = step.node.text ∧
          other.path.map Dependency.text = step.path.map Dependency.text := by
  refine ⟨fun rootKey => ⟨?_, ?_⟩, fun element member => ?_, fun other legible' same => ?_⟩
  · rw [Record.entries, CollectStep.entries_lines legible, CollectStep.leafFirst,
      List.mapIdx_cons]
    rfl
  · simp [Record.depth, CollectStep.lines, CollectStep.leafFirst]
  · exact readLabel_label (legible.closed element member)
  · obtain ⟨context, texts⟩ := CollectStep.eq_of_lines legible' legible same
    simp only [CollectStep.leafFirst, List.map_cons, List.map_reverse, List.cons.injEq,
      List.reverse_inj] at texts
    obtain ⟨node, path⟩ := texts
    refine ⟨context, ?_, node, path⟩
    simpa using congrArg List.length path

/-- A chain whose context looks like the end of a label and the beginning of another one. -/
theorem entries_tell_chain_nested :
    let app : Artifact := { group := "x", name := "app", version := "1 " }
    let lib : Artifact := { group := "x", name := "lib", version := "(2)" }
    let step : CollectStep := ⟨") a (", [⟨app, "compile"⟩], ⟨lib, "test"⟩⟩
    step.IsLegible ∧
      (Record.mk "x_app_1 " step.lines).entries =
        ([(0, "x:lib:(2) () a ()"), (1, "x:app:1  () a ()")] : List (Nat × Wording)) ∧
      readLabel "x:app:1  () a ()" = some (↑"x:app:1 ", ↑") a (") := by
  intro app lib step
  have legible : step.IsLegible := by decide
  have node : step.node.text ++ " (" ++ step.context ++ ")" = ("x:lib:(2) () a ()" : Wording) := by
    decide
  have root : app.text = "x:app:1 " := by decide
  have above : app.text ++ " (" ++ step.context ++ ")" = ("x:app:1  () a ()" : Wording) := by
    decide
  obtain ⟨shown, read, -⟩ := entries_tell_chain legible
  have ancestor := read ⟨app, "compile"⟩ (by decide)
  simp only [Dependency.text] at ancestor
  rw [above, root] at ancestor
  refine ⟨legible, ?_, ancestor⟩
  have path : step.path.reverse = [⟨app, "compile"⟩] := rfl
  rw [(shown "x_app_1 ").1, node, path, List.mapIdx_cons, List.mapIdx_nil]
  simp only [Dependency.text]
  rw [above]

end Provenance
