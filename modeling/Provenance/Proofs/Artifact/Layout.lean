import Provenance.Proofs.Path
import Provenance.Proofs.Text.Encoding
import Provenance.Tracking.Archive

/-!
The layout of a repository, for artifacts whose coordinates can be told from all others: the parts
that lead to an artifact's directory (`directoryOf_eq`), that they belong to no other artifact
(`directories_injective`), and that a record beside an artifact's file lies in the artifact's
tracking directory (`recordPath_pathOf`).
-/
namespace Provenance

namespace Text

/-- A text without slashes, NULs and line boundaries. -/
def IsPlain (s : String) : Prop :=
  ∀ c ∈ s.toList, c ≠ '/' ∧ c ≠ '\x00' ∧ isLineBoundary c = false

instance (s : String) : Decidable (IsPlain s) :=
  List.decidableBAll _ _

theorem IsPlain.noSlash {s : String} (plain : IsPlain s) : '/' ∉ s.toList :=
  fun slash => (plain '/' slash).1 rfl

theorem IsPlain.append {s t : String} (first : IsPlain s) (second : IsPlain t) :
    IsPlain (s ++ t) := by
  intro c inside
  rw [String.toList_append, List.mem_append] at inside
  exact inside.elim (first c) (second c)

/-- Plain fields make a plain text if the separator is plain. -/
theorem IsPlain.ofFields {sep : Char} {fields : List String}
    (single : IsPlain (String.singleton sep)) (plain : ∀ field ∈ fields, IsPlain field) :
    IsPlain (ofFields sep fields) := by
  intro c inside
  rw [Text.ofFields, String.toList_ofList] at inside
  induction fields with
  | nil => simp [joinWith] at inside
  | cons first rest ih =>
    cases rest with
    | nil => exact plain first (by simp) c (by simpa [joinWith] using inside)
    | cons second rest =>
      rw [List.map_cons, List.map_cons, joinWith_cons_cons, List.mem_append, List.mem_cons]
        at inside
      rcases inside with head | same | later
      · exact plain first (by simp) c head
      · exact single c (by simp [same])
      · exact ih (fun field member => plain field (List.mem_cons_of_mem _ member)) later

end Text

/-! ## Coordinates that have a directory of their own -/

/-- A name that can be a directory of the layout. -/
def IsLayoutName (s : String) : Prop := s ≠ "" ∧ s ≠ "." ∧ s ≠ ".." ∧ s ≠ trackingName

instance (s : String) : Decidable (IsLayoutName s) :=
  inferInstanceAs (Decidable (_ ∧ _ ∧ _ ∧ _))

/-- One letter over and over is a name if it is long enough. -/
theorem isLayoutName_replicate {length : Nat} (long : 9 < length) :
    IsLayoutName (String.ofList (.replicate length 'n')) := by
  have other : ∀ s : String, s.utf8ByteSize ≤ 9 → String.ofList (.replicate length 'n') ≠ s := by
    intro s short same
    rw [← same, utf8ByteSize_replicate] at short
    omega
  exact ⟨other _ (by decide), other _ (by decide), other _ (by decide), other _ (by decide)⟩

theorem Text.isPlain_replicate (length : Nat) :
    Text.IsPlain (String.ofList (.replicate length 'n')) := by
  intro c member
  rw [String.toList_ofList] at member
  rw [List.eq_of_mem_replicate member]
  decide

namespace Artifact

/-- The group is a list of segments, and neither the name nor the version is mistaken for another
directory. -/
structure IsLaidOut (a : Artifact) : Prop where
  segments : ∀ segment ∈ Text.fieldsOf '.' a.group, segment ≠ ""
  name : IsLayoutName a.name
  version : IsLayoutName a.version
  plain : Text.IsPlain a.group ∧ Text.IsPlain a.name ∧ Text.IsPlain a.version

instance (a : Artifact) : Decidable a.IsLaidOut :=
  decidable_of_iff ((∀ segment ∈ Text.fieldsOf '.' a.group, segment ≠ "") ∧ IsLayoutName a.name ∧
      IsLayoutName a.version ∧ Text.IsPlain a.group ∧ Text.IsPlain a.name ∧ Text.IsPlain a.version)
    ⟨fun ⟨segments, name, version, plain⟩ => ⟨segments, name, version, plain⟩,
      fun laidOut => ⟨laidOut.segments, laidOut.name, laidOut.version, laidOut.plain⟩⟩

/-- The texts that the coordinates consist of. -/
def coordinates (a : Artifact) : List String :=
  [a.group, a.name, a.version, a.extension, a.classifier]

/-- The names that lead from the base directory to the directory of an artifact. -/
def directories (a : Artifact) : List String :=
  Text.fieldsOf '.' a.group ++ [a.name, a.version]

/-- The segments of the group, the name and the version each name a directory, if only by `..` or
like the directory of the records. -/
structure IsPlaced (a : Artifact) : Prop where
  segments : ∀ segment ∈ Text.fieldsOf '.' a.group, segment ≠ ""
  group : '/' ∉ a.group.toList
  name : Path.IsPart a.name
  version : Path.IsPart a.version

instance (a : Artifact) : Decidable a.IsPlaced :=
  decidable_of_iff ((∀ segment ∈ Text.fieldsOf '.' a.group, segment ≠ "") ∧
      '/' ∉ a.group.toList ∧ Path.IsPart a.name ∧ Path.IsPart a.version)
    ⟨fun ⟨segments, group, name, version⟩ => ⟨segments, group, name, version⟩,
      fun placed => ⟨placed.segments, placed.group, placed.name, placed.version⟩⟩

/-- A filled segment of a group without slashes is a part of a path; it cannot be a dot. -/
theorem isPart_of_segment {group segment : String} (noSlash : '/' ∉ group.toList)
    (member : segment ∈ Text.fieldsOf '.' group) (filled : segment ≠ "") :
    Path.IsPart segment := by
  have noDot := Text.notMem_of_mem_fieldsOf member
  constructor
  · have other : segment ≠ "." := by rintro rfl; simp at noDot
    simp [Path.isIdle, filled, other]
  · exact fun slash => noSlash (Text.mem_of_mem_fieldsOf member slash)

theorem IsPlaced.isPart {a : Artifact} (placed : a.IsPlaced) {name : String}
    (member : name ∈ a.directories) : Path.IsPart name := by
  rcases List.mem_append.mp member with segment | last
  · exact isPart_of_segment placed.group segment (placed.segments name segment)
  · simp only [List.mem_cons, List.not_mem_nil, or_false] at last
    rcases last with rfl | rfl
    · exact placed.name
    · exact placed.version

theorem IsLaidOut.segment {a : Artifact} (laidOut : a.IsLaidOut) {segment : String}
    (member : segment ∈ Text.fieldsOf '.' a.group) :
    Path.IsPart segment ∧ segment ≠ ".." ∧ segment ≠ trackingName := by
  have noDot := Text.notMem_of_mem_fieldsOf member
  refine ⟨?_, ?_, ?_⟩
  · exact isPart_of_segment laidOut.plain.1.noSlash member (laidOut.segments segment member)
  · rintro rfl
    simp at noDot
  · rintro rfl
    simp [trackingName] at noDot

theorem isPart_of_layoutName {s : String} (name : IsLayoutName s) (plain : Text.IsPlain s) :
    Path.IsPart s := by
  exact ⟨by simp [Path.isIdle, name.1, name.2.1], plain.noSlash⟩

theorem IsLaidOut.isPlaced {a : Artifact} (laidOut : a.IsLaidOut) : a.IsPlaced where
  segments := laidOut.segments
  group := laidOut.plain.1.noSlash
  name := isPart_of_layoutName laidOut.name laidOut.plain.2.1
  version := isPart_of_layoutName laidOut.version laidOut.plain.2.2

/-- The directories of an artifact are parts of a path, and none is `..` or a tracking directory. -/
theorem IsLaidOut.directory {a : Artifact} (laidOut : a.IsLaidOut) {name : String}
    (member : name ∈ a.directories) :
    Path.IsPart name ∧ name ≠ ".." ∧ name ≠ trackingName := by
  rcases List.mem_append.mp member with segment | last
  · exact laidOut.segment segment
  · refine ⟨laidOut.isPlaced.isPart member, ?_⟩
    simp only [List.mem_cons, List.not_mem_nil, or_false] at last
    rcases last with rfl | rfl
    · exact laidOut.name.2.2
    · exact laidOut.version.2.2

/-- Different artifacts have different directories. -/
theorem directories_injective {a b : Artifact} (same : a.directories = b.directories) :
    a.identity = b.identity := by
  obtain ⟨groups, last⟩ := List.append_inj' same rfl
  have group : a.group = b.group := Text.fieldsOf_injective groups
  simp only [List.cons.injEq, and_true] at last
  simp [identity, group, last]

/-! ## The texts of artifacts -/

/-- All texts of the coordinates are plain. -/
def IsPlain (a : Artifact) : Prop := ∀ s ∈ a.coordinates, Text.IsPlain s

instance (a : Artifact) : Decidable a.IsPlain :=
  List.decidableBAll _ _

theorem IsPlain.extensionOr {a : Artifact} (plain : a.IsPlain) :
    Text.IsPlain (extensionOr a.extension) := by
  unfold Artifact.extensionOr
  split
  · decide
  · exact plain _ (by simp [coordinates])

/-- What holds of the empty text and of the default extension holds of the coordinates of an
artifact if and only if it holds of the fields that are shown. -/
theorem forall_fields_iff {holds : String → Prop} (empty : holds "")
    (usual : holds defaultExtension) (a : Artifact) :
    (∀ field ∈ a.coordinates, holds field) ↔ ∀ field ∈ a.fields, holds field := by
  by_cases extension : a.extension = "" <;> by_cases classifier : a.classifier = "" <;>
    simp [coordinates, fields, Artifact.extensionOr, extension, classifier, empty, usual]

theorem IsPlain.text {a : Artifact} (plain : a.IsPlain) : Text.IsPlain a.text :=
  Text.IsPlain.ofFields (by decide) ((forall_fields_iff (by decide) (by decide) a).mp plain)

/-- Coordinates hold a colon. -/
theorem colon_mem_text (a : Artifact) : ':' ∈ a.text.toList := by
  simp [text, fields, Text.ofFields, Text.joinWith]

end Artifact

/-- The name of a record is a part of a path, and neither `..` nor that of a tracking directory. -/
theorem fileName_part {root : RequestRoot} {a : Artifact} (same : root.text = a.text)
    (noSlash : '/' ∉ a.text.toList) :
    Path.IsPart root.fileName ∧ root.fileName ≠ ".." ∧ root.fileName ≠ trackingName := by
  have name : root.fileName.toList = a.text.toList.map fun c => if c = ':' then '_' else c := by
    simp [RequestRoot.fileName, Text.exchange, same]
  have mark : '_' ∈ root.fileName.toList := by
    rw [name]
    exact List.mem_map.mpr ⟨':', a.colon_mem_text, rfl⟩
  have other : ∀ s : String, '_' ∉ s.toList → root.fileName ≠ s := by
    rintro s absent rfl
    exact absent mark
  refine ⟨⟨?_, ?_⟩, other _ (by decide), other _ (by decide)⟩
  · simp [Path.isIdle, other "" (by decide), other "." (by decide)]
  · rw [name]
    intro slash
    obtain ⟨c, inside, exchanged⟩ := List.mem_map.mp slash
    split at exchanged
    · cases exchanged
    · exact noSlash (exchanged ▸ inside)

namespace Repository

variable {r : Repository} {a : Artifact}

/-- The directory of an artifact is reached by the names of its directories, one by one. -/
theorem directoryOf_eq (placed : a.IsPlaced) :
    r.directoryOf a = { r.base with parts := r.base.parts ++ a.directories } := by
  have segments : ∀ segment ∈ Text.fieldsOf '.' a.group, Path.IsPart segment := fun _ member =>
    placed.isPart (List.mem_append_left _ member)
  rw [directoryOf, Path.foldl_child _ segments, Path.child_part _ placed.name,
    Path.child_part _ placed.version]
  simp [Artifact.directories]

theorem trackingOf_eq (laidOut : a.IsLaidOut) :
    r.trackingOf a = { r.base with parts := r.base.parts ++ a.directories ++ [trackingName] } := by
  rw [trackingOf, directoryOf_eq laidOut.isPlaced, Path.child_part _ (by decide)]

theorem fileNameOf_part (plain : a.IsPlain) : Path.IsPart (fileNameOf a) := by
  have dash : '-' ∈ (fileNameOf a).toList := by
    unfold fileNameOf
    simp only [String.toList_append, List.mem_append]
    exact .inl (.inl (.inl (.inl (.inr (by decide)))))
  have whole : Text.IsPlain (fileNameOf a) := by
    have field : ∀ s ∈ a.coordinates, Text.IsPlain s := plain
    simp only [Artifact.coordinates, List.forall_mem_cons] at field
    obtain ⟨_, name, version, _, classifier, _⟩ := field
    have marked : Text.IsPlain (if a.classifier = "" then "" else "-" ++ a.classifier) := by
      split
      · decide
      · exact Text.IsPlain.append (by decide) classifier
    have dashed := (name.append (by decide : Text.IsPlain "-")).append version
    exact ((dashed.append marked).append (by decide : Text.IsPlain ".")).append plain.extensionOr
  refine ⟨?_, whole.noSlash⟩
  have other : ∀ s : String, '-' ∉ s.toList → fileNameOf a ≠ s := by
    rintro s absent rfl
    exact absent dash
  simp [Path.isIdle, other "" (by decide), other "." (by decide)]

/-- The record of a root beside an artifact's file lies in the artifact's tracking directory. -/
theorem recordPath_pathOf {root : RequestRoot} (plain : a.IsPlain)
    (name : Path.IsPart root.fileName) :
    recordPath (r.pathOf a) root = (r.trackingOf a).entry root.fileName := by
  rw [recordPath, trackingBeside, pathOf, Path.child_part _ (fileNameOf_part plain),
    Path.child_part _ name]
  simp [Path.parent, trackingOf, Path.entry]

end Repository

end Provenance
