import Provenance.FileSystem.Basic
import Provenance.Proofs.Text.Fields

/-!
Paths that were read from a text, and what happens to the text of a path when parts are added: it
is continued (`text_begins`), so the limits that the longer path keeps are kept by the shorter one.
-/
namespace Provenance

theorem utf8ByteSize_le_of_begins {s t : String} (begins : s.toList <+: t.toList) :
    s.utf8ByteSize ≤ t.utf8ByteSize := by
  obtain ⟨rest, whole⟩ := begins
  have continued : t = s ++ String.ofList rest := by
    rw [← String.toList_inj, String.toList_append, String.toList_ofList, whole]
  rw [continued, String.utf8ByteSize_append]
  omega

/-- How long one letter over and over is. -/
theorem utf8ByteSize_replicate (length : Nat) :
    (String.ofList (.replicate length 'n')).utf8ByteSize = length := by
  induction length with
  | zero => rfl
  | succ length ih =>
    have more : String.ofList (.replicate (length + 1) 'n') =
        "n" ++ String.ofList (.replicate length 'n') := by
      rw [List.replicate_succ, ← List.singleton_append, String.ofList_append]
    have one : "n".utf8ByteSize = 1 := by decide
    rw [more, String.utf8ByteSize_append, ih, one]
    omega

namespace Path

/-- A part that stands for itself: it is read back from a text as the only part. -/
structure IsPart (s : String) : Prop where
  notIdle : isIdle s = false
  noSlash : '/' ∉ s.toList

instance (s : String) : Decidable (IsPart s) :=
  decidable_of_iff (isIdle s = false ∧ '/' ∉ s.toList)
    ⟨fun ⟨notIdle, noSlash⟩ => ⟨notIdle, noSlash⟩, fun part => ⟨part.notIdle, part.noSlash⟩⟩

/-- A path with the parts that reading a text leaves. -/
def Proper (p : Path) : Prop := ∀ part ∈ p.parts, IsPart part

instance (p : Path) : Decidable p.Proper :=
  List.decidableBAll _ _

/-- The parts of a path that is read from a text are fields of the text, but for those that stand
for nothing. -/
theorem mem_ofText_iff {part s : String} :
    part ∈ (ofText s).parts ↔ part ∈ Text.fieldsOf '/' s ∧ isIdle part = false := by
  rw [ofText, List.mem_filter, Bool.not_eq_true']

/-- A path that is read from a text is proper. -/
theorem ofText_proper (s : String) : (ofText s).Proper := by
  intro part member
  obtain ⟨field, notIdle⟩ := mem_ofText_iff.mp member
  exact ⟨notIdle, Text.notMem_of_mem_fieldsOf field⟩

/-- A part is read as itself. -/
theorem ofText_part {s : String} (part : IsPart s) : ofText s = ⟨.relative, [s]⟩ := by
  have root : Root.ofText s.toList = .relative := by
    unfold Root.ofText
    have noSlash := part.noSlash
    split <;> simp_all
  simp [ofText, root, Text.fieldsOf_eq_singleton part.noSlash, part.notIdle]

theorem child_part {s : String} (p : Path) (part : IsPart s) :
    p.child s = { p with parts := p.parts ++ [s] } := by
  simp [child, join, ofText_part part]

theorem foldl_child {names : List String} (p : Path) (parts : ∀ name ∈ names, IsPart name) :
    names.foldl child p = { p with parts := p.parts ++ names } := by
  induction names generalizing p with
  | nil => simp
  | cons first rest ih =>
    rw [List.foldl_cons, child_part p (parts first (by simp)),
      ih _ fun name member => parts name (List.mem_cons_of_mem _ member)]
    simp

/-- A character that paths are not written with stands in the text of a path if it stands in a
part. -/
theorem mem_text_iff {c : Char} (noSlash : c ≠ '/') (noDot : c ≠ '.') (p : Path) :
    c ∈ p.text.toList ↔ ∃ part ∈ p.parts, c ∈ part.toList := by
  have root : c ∉ p.root.text.toList := by
    cases p.root <;> simp [Root.text, noSlash]
  unfold text
  split
  · rename_i bare
    simp [bare, noDot]
  · rw [String.toList_append, List.mem_append, Text.mem_ofFields_iff noSlash]
    simp [root]

/-- Parts added to a path continue its text, unless the text is a dot for want of any part. -/
theorem text_begins {p : Path} (written : p.isAbsolute = true ∨ p.parts ≠ []) (more : List String) :
    p.text.toList <+: ({ p with parts := p.parts ++ more } : Path).text.toList := by
  have spelled : ¬(p.root = .relative ∧ p.parts = []) := by
    rintro ⟨relative, empty⟩
    simp [isAbsolute, relative, empty] at written
  have longer : ¬(p.root = .relative ∧ p.parts ++ more = []) := fun ⟨relative, empty⟩ =>
    spelled ⟨relative, (List.append_eq_nil_iff.mp empty).1⟩
  simp only [text, if_neg spelled, if_neg longer, String.toList_append, Text.ofFields,
    String.toList_ofList, List.map_append]
  exact (List.prefix_append_right_inj _).mpr (Text.joinWith_begins _ _)

/-- The text of a path begins with the text of the directory above it. -/
theorem parent_begins {p : Path} (absolute : p.isAbsolute = true) :
    p.parent.text.toList <+: p.text.toList := by
  have whole : p.parent.parts ++ p.parts.drop (p.parts.length - 1) = p.parts := by
    rw [parent, List.dropLast_eq_take, List.take_append_drop]
  have continued := text_begins (p := p.parent) (.inl absolute) (p.parts.drop (p.parts.length - 1))
  rw [whole] at continued
  exact continued

/-- A path that a file system can look up as far as lengths are concerned. -/
structure Fits (p : Path) : Prop where
  path : p.text.utf8ByteSize ≤ FileSystem.maxPath
  names : ∀ part ∈ p.parts, part.utf8ByteSize ≤ FileSystem.maxName

instance (p : Path) : Decidable p.Fits :=
  decidable_of_iff (p.text.utf8ByteSize ≤ FileSystem.maxPath ∧
      ∀ part ∈ p.parts, part.utf8ByteSize ≤ FileSystem.maxName)
    ⟨fun ⟨path, names⟩ => ⟨path, names⟩, fun fits => ⟨fits.path, fits.names⟩⟩

end Path

end Provenance
