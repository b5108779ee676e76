import Provenance.Proofs.Artifact.Grammar

/-!
Directories of the layout and coordinates, each read off from the other. The directory of an
artifact shows the artifact's coordinates (`coordinatesOf?_directoryOf`), whether the base directory
is absolute or relative and even if a name is `..`. Going back from a directory needs more, since
the coordinates are one text: the parts above the last two must be free of dots, no part may hold a
colon, and no blank may stand at an end (`directoryOf_of_coordinates`).
-/
namespace Provenance

namespace Artifact

/-- Coordinates without extension and classifier are read back as they are. -/
theorem parse_bare_of_trimmed {a : Artifact} (placed : a.IsPlaced)
    (colons : ':' ∉ a.group.toList ∧ ':' ∉ a.name.toList ∧ ':' ∉ a.version.toList)
    (trimmed : Text.IsTrimmed a.bare.text) : Artifact.parse a.bare.text = some a.bare := by
  have filled : ∀ {part : String}, Path.IsPart part → part ≠ "" := by
    rintro part isPart rfl
    exact absurd isPart.notIdle (by decide)
  have group : a.group ≠ "" := by
    intro empty
    exact placed.segments "" (by rw [empty]; decide) rfl
  refine (parse_text_iff a.bare).mpr
    ⟨⟨group, filled placed.name, filled placed.version⟩, ?_, trimmed⟩
  simpa [coordinates, bare] using colons

end Artifact

namespace Repository

variable {r : Repository}

/-- The directory of an artifact shows the coordinates of the artifact. -/
theorem coordinatesOf?_directoryOf {a : Artifact} (placed : a.IsPlaced) :
    r.coordinatesOf? (r.directoryOf a) = some a.bare.text := by
  simp [coordinatesOf?, directoryOf_eq placed, Path.below?, coordinatesOfParts_directories]

/-- Two artifacts share a directory exactly if they have the same identity. -/
theorem directoryOf_eq_iff {a b : Artifact} (placed : a.IsPlaced) (placed' : b.IsPlaced) :
    r.directoryOf a = r.directoryOf b ↔ a.identity = b.identity := by
  constructor
  · intro same
    rw [directoryOf_eq placed, directoryOf_eq placed', Path.mk.injEq] at same
    exact Artifact.directories_injective (List.append_cancel_left same.2)
  · intro same
    simp only [Artifact.identity, Identity.mk.injEq] at same
    rw [directoryOf, directoryOf, same.1, same.2.1, same.2.2]

/-- Parts that lead to the directory of an artifact and let its coordinates be told apart. -/
structure TellsArtifact (parts : List String) : Prop where
  enough : 3 ≤ parts.length
  isPart : ∀ part ∈ parts, Path.IsPart part
  dotless : ∀ part ∈ parts.take (parts.length - 2), '.' ∉ part.toList
  colonless : ∀ part ∈ parts, ':' ∉ part.toList
  trimmed : Text.IsTrimmed (coordinatesOfParts parts)

instance (parts : List String) : Decidable (TellsArtifact parts) :=
  decidable_of_iff (3 ≤ parts.length ∧ (∀ part ∈ parts, Path.IsPart part) ∧
      (∀ part ∈ parts.take (parts.length - 2), '.' ∉ part.toList) ∧
      (∀ part ∈ parts, ':' ∉ part.toList) ∧ Text.IsTrimmed (coordinatesOfParts parts))
    ⟨fun ⟨enough, isPart, dotless, colonless, trimmed⟩ =>
        ⟨enough, isPart, dotless, colonless, trimmed⟩,
      fun tells => ⟨tells.enough, tells.isPart, tells.dotless, tells.colonless, tells.trimmed⟩⟩

/-- Such parts are the directories of an artifact. -/
theorem TellsArtifact.exists_directories {parts : List String} (tells : TellsArtifact parts) :
    ∃ a : Artifact, a = a.bare ∧ a.IsPlaced ∧ a.directories = parts ∧
      ':' ∉ a.group.toList ∧ ':' ∉ a.name.toList ∧ ':' ∉ a.version.toList := by
  obtain ⟨enough, isPart, dotless, colonless, -⟩ := tells
  -- The last two parts are the name and the version, and those above them are the group.
  obtain ⟨groups, name, version, rfl⟩ :
      ∃ groups name version, parts = groups ++ [name, version] := by
    refine ⟨parts.take (parts.length - 2), parts[parts.length - 2], parts[parts.length - 1], ?_⟩
    have last : parts.drop (parts.length - 2) =
        [parts[parts.length - 2], parts[parts.length - 1]] := by
      rw [List.drop_eq_getElem_cons (by omega), List.drop_eq_getElem_cons (by omega),
        List.drop_of_length_le (by omega)]
      simp only [show parts.length - 2 + 1 = parts.length - 1 by omega]
    rw [← last, List.take_append_drop]
  have above :
      (groups ++ [name, version]).take ((groups ++ [name, version]).length - 2) = groups := by
    simp
  rw [above] at dotless
  have some : groups ≠ [] := by
    rintro rfl
    simp at enough
  have segments : Text.fieldsOf '.' (Text.ofFields '.' groups) = groups :=
    Text.fieldsOf_ofFields some dotless
  have within : ∀ {c : Char}, c ≠ '.' → (∀ part ∈ groups ++ [name, version], c ∉ part.toList) →
      c ∉ (Text.ofFields '.' groups).toList := by
    intro c other absent inside
    obtain ⟨part, member, held⟩ := (Text.mem_ofFields_iff other).mp inside
    exact absent part (List.mem_append_left _ member) held
  refine ⟨{ group := Text.ofFields '.' groups, name, version }, rfl, ⟨?_, ?_, ?_, ?_⟩, ?_, ?_⟩
  · intro segment member
    rw [segments] at member
    rintro rfl
    exact absurd (isPart "" (List.mem_append_left _ member)).notIdle (by decide)
  · exact within (by decide) fun part member => (isPart part member).noSlash
  · exact isPart name (by simp)
  · exact isPart version (by simp)
  · rw [Artifact.directories, segments]
  · exact ⟨within (by decide) colonless, colonless name (by simp), colonless version (by simp)⟩

/-- The coordinates of a directory are read as an artifact that has this directory. -/
theorem directoryOf_of_coordinates {parts : List String} (tells : TellsArtifact parts) :
    ∃ coordinates a, r.coordinatesOf? { r.base with parts := r.base.parts ++ parts } =
        some coordinates ∧
      Artifact.parse coordinates = some a ∧
      r.directoryOf a = { r.base with parts := r.base.parts ++ parts } := by
  obtain ⟨a, bare, placed, rfl, colons⟩ := tells.exists_directories
  have trimmed := tells.trimmed
  rw [coordinatesOfParts_directories] at trimmed
  refine ⟨a.bare.text, a, ?_, ?_, directoryOf_eq placed⟩
  · rw [← directoryOf_eq placed, coordinatesOf?_directoryOf placed]
  · rw [Artifact.parse_bare_of_trimmed placed colons trimmed, ← bare]

/-- The directory of an artifact shows `group:artifact:version`, so no two artifacts of different
identities share one. Conversely, the coordinates of a directory are read as an artifact that has
this directory, if the parts below the base directory tell where the group ends. -/
theorem directories_tell_coordinates (r : Repository) :
    (∀ a : Artifact, a.IsPlaced →
      r.coordinatesOf? (r.directoryOf a) =
        some (a.group ++ ":" ++ a.name ++ ":" ++ a.version)) ∧
    (∀ a b : Artifact, a.IsPlaced → b.IsPlaced →
      (r.directoryOf a = r.directoryOf b ↔
        a.group = b.group ∧ a.name = b.name ∧ a.version = b.version)) ∧
    ∀ parts, TellsArtifact parts →
      let directory : Path := { r.base with parts := r.base.parts ++ parts }
      ∃ coordinates a, r.coordinatesOf? directory = some coordinates ∧
        Artifact.parse coordinates = some a ∧ r.directoryOf a = directory := by
  refine ⟨?_, ?_, fun parts tells => directoryOf_of_coordinates tells⟩
  · intro a placed
    rw [coordinatesOf?_directoryOf placed, Artifact.bare_text]
    simp [Text.ofFields, Text.joinWith, ← String.toList_inj]
  · intro a b placed placed'
    rw [directoryOf_eq_iff placed placed']
    simp only [Artifact.identity, Identity.mk.injEq]

/-- A deep group, a name with a dot in it and a version that reads like the way up, below a relative
base directory. -/
theorem directories_tell_coordinates_upward :
    let r : Repository := ⟨.ofText "cache/../repo"⟩
    let a : Artifact := { group := "org.example.tools", name := "lib.core", version := ".." }
    let parts := ["org", "example", "tools", "lib.core", ".."]
    (a.IsPlaced ∧ TellsArtifact parts) ∧
      r.coordinatesOf? (r.directoryOf a) = some "org.example.tools:lib.core:.." ∧
      r.directoryOf a ≠ r.directoryOf { a with version := "2.0" } ∧
      ∃ coordinates b, r.coordinatesOf? ⟨.relative, ["cache", "..", "repo"] ++ parts⟩ =
          some coordinates ∧
        Artifact.parse coordinates = some b ∧
        r.directoryOf b = ⟨.relative, ["cache", "..", "repo"] ++ parts⟩ := by
  intro r a parts
  have placed : a.IsPlaced := by decide
  have tells : TellsArtifact parts := by decide
  obtain ⟨shown, shared, told⟩ := directories_tell_coordinates r
  refine ⟨⟨placed, tells⟩, shown a placed, ?_, told parts tells⟩
  rw [Ne, shared a { a with version := "2.0" } placed (by decide)]
  decide

end Repository

end Provenance
