import Provenance.Proofs.Artifact.Layout

/-!
The coordinates of a directory of the layout. Going up from an artifact's tracking directory and
reading the parts gives `group:artifact:version` (`coordinatesOf?_trackingOf`), and parsing that
text gives the artifact back (`parse_bare`), so both lead to the same directory.
-/
namespace Provenance

namespace Text

/-- A text that neither begins nor ends with a blank. -/
def IsTrimmed (s : String) : Prop :=
  (∀ c ∈ s.toList.head?, isBlank c = false) ∧ ∀ c ∈ s.toList.getLast?, isBlank c = false

instance (s : String) : Decidable (IsTrimmed s) :=
  @instDecidableAnd _ _ (Option.decidableForallMem _) (Option.decidableForallMem _)

theorem dropWhile_eq_self_of_head? {α : Type} {p : α → Bool} {xs : List α}
    (first : ∀ x ∈ xs.head?, p x = false) : xs.dropWhile p = xs := by
  cases xs with
  | nil => rfl
  | cons x rest => simp [first x rfl]

/-- Nothing is stripped from a text without blanks at its ends. -/
theorem strip_eq_self {s : String} (trimmed : IsTrimmed s) : strip s = s := by
  have last : ∀ c ∈ s.toList.reverse.head?, isBlank c = false := by
    rw [List.head?_reverse]
    exact trimmed.2
  rw [strip, trimWhile, dropWhile_eq_self_of_head? trimmed.1, dropWhile_eq_self_of_head? last,
    List.reverse_reverse, String.ofList_toList]

/-- The ends of a text are those of the texts it begins and ends with. -/
theorem IsTrimmed.around {s first last : String} (middle : List Char) (begins : IsTrimmed first)
    (ends : IsTrimmed last) (opened : first ≠ "") (closed : last ≠ "")
    (whole : s.toList = first.toList ++ (middle ++ last.toList)) : IsTrimmed s := by
  constructor
  · intro c head
    cases chars : first.toList with
    | nil => exact absurd (String.toList_eq_nil_iff.mp chars) opened
    | cons d rest =>
      rw [whole, chars] at head
      exact begins.1 c (by rw [chars]; exact head)
  · intro c final
    have held : last.toList ≠ [] := by simpa using closed
    rw [whole, ← List.append_assoc, List.getLast?_append, List.getLast?_eq_some_getLast held]
      at final
    exact ends.2 c (by rw [List.getLast?_eq_some_getLast held]; exact final)

end Text

namespace Artifact

/-- The artifact with nothing but its identity. -/
def bare (a : Artifact) : Artifact := { group := a.group, name := a.name, version := a.version }

/-- The text of the coordinates tells where the group ends and the version begins. -/
structure IsReadable (a : Artifact) : Prop where
  colons : ':' ∉ a.group.toList ∧ ':' ∉ a.name.toList ∧ ':' ∉ a.version.toList
  trimmed : Text.IsTrimmed a.group ∧ Text.IsTrimmed a.version

instance (a : Artifact) : Decidable a.IsReadable :=
  decidable_of_iff ((':' ∉ a.group.toList ∧ ':' ∉ a.name.toList ∧ ':' ∉ a.version.toList) ∧
      Text.IsTrimmed a.group ∧ Text.IsTrimmed a.version)
    ⟨fun ⟨colons, trimmed⟩ => ⟨colons, trimmed⟩,
      fun readable => ⟨readable.colons, readable.trimmed⟩⟩

theorem bare_text (a : Artifact) :
    a.bare.text = Text.ofFields ':' [a.group, a.name, a.version] := by
  simp [text, fields, bare]

theorem IsLaidOut.group_ne_empty {a : Artifact} (laidOut : a.IsLaidOut) : a.group ≠ "" := by
  intro empty
  have segment := laidOut.segments "" (by rw [empty]; decide)
  exact segment rfl

/-- Reading the coordinates that are shown for an artifact gives the artifact. -/
theorem parse_bare {a : Artifact} (laidOut : a.IsLaidOut) (readable : a.IsReadable) :
    Artifact.parse a.bare.text = some a.bare := by
  have group := laidOut.group_ne_empty
  have version := laidOut.version.1
  have chars : a.bare.text.toList =
      a.group.toList ++ ':' :: (a.name.toList ++ ':' :: a.version.toList) := by
    simp [bare_text, Text.ofFields, Text.joinWith]
  have trimmed : Text.IsTrimmed a.bare.text :=
    .around (':' :: (a.name.toList ++ [':'])) readable.trimmed.1 readable.trimmed.2 group version
      (by simp [chars])
  have split : Text.fieldsOf ':' a.bare.text = [a.group, a.name, a.version] := by
    rw [bare_text]
    refine Text.fieldsOf_ofFields (by simp) ?_
    simpa using readable.colons
  rw [parse, Text.strip_eq_self trimmed, split, ofFields?, if_neg]
  · rfl
  · simp [group, laidOut.name.1, version]

end Artifact

namespace Repository

variable {r : Repository} {a : Artifact}

theorem coordinatesOfParts_directories (a : Artifact) :
    coordinatesOfParts a.directories = a.bare.text := by
  have groups : Text.ofFields '.' (Text.fieldsOf '.' a.group) = a.group := Text.ofFields_fieldsOf _
  have reversed : a.directories.reverse =
      a.version :: a.name :: (Text.fieldsOf '.' a.group).reverse := by
    simp [Artifact.directories]
  unfold coordinatesOfParts
  rw [reversed]
  cases parts : (Text.fieldsOf '.' a.group).reverse with
  | nil => exact absurd (List.reverse_eq_nil_iff.mp parts) (Text.fieldsOf_ne_nil _)
  | cons last above =>
    have whole : (last :: above).reverse = Text.fieldsOf '.' a.group := by
      rw [← parts, List.reverse_reverse]
    dsimp only
    rw [whole, groups, Artifact.bare_text]
    simp [Text.ofFields, Text.joinWith, ← String.toList_inj]

/-- The directory above an artifact's records shows the coordinates of the artifact. -/
theorem coordinatesOf?_trackingOf (laidOut : a.IsLaidOut) :
    r.coordinatesOf? (r.trackingOf a).parent = some a.bare.text := by
  have parent : (r.trackingOf a).parent =
      { r.base with parts := r.base.parts ++ a.directories } := by
    simp [trackingOf_eq laidOut, Path.parent]
  simp [coordinatesOf?, parent, Path.below?, coordinatesOfParts_directories]

end Repository

end Provenance
