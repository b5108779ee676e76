import Provenance.Proofs.Artifact.Layout
import Provenance.Proofs.FileSystem.Directory
import Provenance.Proofs.Tracking.Writing

/-!
Where the record of a root lies. It lies directly in the tracking directory beside the artifact if
the name of the record is a single part of a path, and otherwise only if the name spells the
tracking directory itself from a root (`recordPath_parent_iff`); a slash in the coordinates is
enough to lead it elsewhere (`recordPath_outside`). Where there are no symbolic links, a write that
goes well sets the one file that the path spells and changes no other (`persist_sets_one`).
-/
namespace Provenance

open FileSystem

/-- The tracking directory is named below the directory of the file. -/
theorem trackingBeside_eq (file : Path) :
    trackingBeside file = { file with parts := file.parent.parts ++ [trackingName] } := by
  rw [trackingBeside, Path.child_part _ (by decide)]
  rfl

/-- A path lies directly below another one if it has one more part. -/
theorem Path.parent_eq_iff {p above : Path} (named : above.parts ≠ []) :
    p.parent = above ↔ ∃ name, p = { above with parts := above.parts ++ [name] } := by
  constructor
  · rintro rfl
    rcases List.eq_nil_or_concat p.parts with empty | ⟨parts, name, split⟩
    · simp [parent, empty] at named
    · refine ⟨name, ?_⟩
      rw [List.concat_eq_append] at split
      simp only [parent, split, List.dropLast_concat]
      rw [← split]
  · rintro ⟨name, rfl⟩
    simp [parent]

/-- The record of a root lies directly in the tracking directory if and only if its name is a single
part, or a path from a root to the tracking directory and one part further. -/
theorem recordPath_parent_iff (file : Path) (root : RequestRoot) :
    (recordPath file root).parent = trackingBeside file ↔
      (∃ name, Path.ofText root.fileName = ⟨.relative, [name]⟩) ∨
        (Path.ofText root.fileName).isAbsolute = true ∧
          (Path.ofText root.fileName).parent = trackingBeside file := by
  have named : (trackingBeside file).parts ≠ [] := by simp [trackingBeside_eq]
  unfold recordPath Path.child Path.join
  by_cases relative : (Path.ofText root.fileName).root = .relative
  · have single : ∀ name, (Path.ofText root.fileName).parts = [name] ↔
        Path.ofText root.fileName = ⟨.relative, [name]⟩ := by
      intro name
      constructor
      · intro same
        rw [← relative, ← same]
      · intro same
        rw [same]
    rw [if_pos relative, Path.parent_eq_iff named]
    simp [Path.isAbsolute, relative, single]
  · have other : ¬∃ name, Path.ofText root.fileName = ⟨.relative, [name]⟩ := by
      rintro ⟨name, same⟩
      exact relative (by rw [same])
    rw [if_neg relative]
    simp [Path.isAbsolute, relative, other]

/-- Coordinates without a slash name a record in the tracking directory. -/
theorem recordPath_of_noSlash {a : Artifact} {root : RequestRoot} (same : root.text = a.text)
    (noSlash : '/' ∉ a.text.toList) (file : Path) :
    recordPath file root = (trackingBeside file).entry root.fileName :=
  Path.child_part _ (fileName_part same noSlash).1

/-- The parts that lead to a record, as far as they are read from its name, stand for something. -/
theorem recordPath_last {file : Path} {root : RequestRoot} {last : String}
    (whole : (recordPath file root).parts = (trackingBeside file).parts ++ [last]) :
    Path.isIdle last = false := by
  have proper := Path.ofText_proper root.fileName
  have inside : last ∈ (Path.ofText root.fileName).parts := by
    unfold recordPath Path.child Path.join at whole
    split at whole
    · rw [List.append_cancel_left whole]
      simp
    · rw [whole]
      simp
  exact (proper last inside).notIdle

/-- Where a record lies directly in the tracking directory by its path, the file lies directly in
the directory that the path of the tracking directory leads to. -/
theorem place_of_recordPath {fs : FileSystem} (linkFree : fs.NoLinks) {file : Path}
    {root : RequestRoot} {place : Location} {bytes : List UInt8}
    (inside : (recordPath file root).parent = trackingBeside file)
    (located : fs.locate true (recordPath file root) = .ok (.found place (.file bytes))) :
    ∃ directory name, place = directory ++ [name] ∧
      fs.locate true (trackingBeside file) = .ok (.found directory .directory) := by
  have named : (trackingBeside file).parts ≠ [] := by simp [trackingBeside_eq]
  obtain ⟨last, whole⟩ := (Path.parent_eq_iff named).mp inside
  have idle := recordPath_last (congrArg Path.parts whole)
  rw [whole] at located
  obtain ⟨directory, there⟩ := locate_above (.inr named) (List.cons_ne_nil last []) located
  refine ⟨directory, last, ?_, there⟩
  obtain ⟨_, _, leads⟩ := locate_eq_ok_iff.mp there
  obtain ⟨_, _, further⟩ := locate_eq_ok_iff.mp located
  have here : directory = spell (fs.start (trackingBeside file)) (trackingBeside file).parts :=
    leads.place_eq linkFree
  have spelled : place = spell (fs.start (trackingBeside file))
      ((trackingBeside file).parts ++ [last]) := further.place_eq linkFree
  rw [spell_append, ← here] at spelled
  by_cases up : last = ".."
  · -- The way up leads to the directory that the tracking directory was entered from, and the
    -- record would have to be a directory.
    exfalso
    rw [trackingBeside_eq] at leads here
    obtain ⟨above, entered⟩ := leads.init
    have outer : above = spell (fs.start (trackingBeside file)) file.parent.parts :=
      entered.place_eq linkFree
    have down : spell above [trackingName] = above ++ [trackingName] :=
      spell_names (by decide) above
    rw [spell_append, ← trackingBeside_eq, ← outer, down] at here
    rw [up, here] at spelled
    have back : place = above := by simpa [spell, enter, isIdle_up] using spelled
    have file := further.lookup_found
    rw [back, entered.lookup_found] at file
    cases file
  · rw [spelled, spell_names (by simpa using ⟨idle, up⟩)]

/-- Where there are no symbolic links, a write of a record that goes well sets one entry, which was
free or a file, at the place that the path of the record spells. -/
theorem persist_sets_one {disk : Disk} {files : FileSystem} (linkFree : files.NoLinks)
    {file path : Path}
    {root : RequestRoot} {lines : List Wording}
    (well : (persist disk files file root lines).answer = .ok ⟨path, none⟩) :
    ∃ place, (persist disk files file root lines).files.locate true (recordPath file root) =
        .ok (.found place (.file (Record.bytes lines))) ∧
      place = spell (files.start (recordPath file root)) (recordPath file root).parts ∧
      (files.lookup place = none ∨ ∃ old, files.lookup place = some (.file old)) ∧
      (∀ q, q ≠ place → ∀ bytes,
        (persist disk files file root lines).files.lookup q = some (.file bytes) ↔
          files.lookup q = some (.file bytes)) ∧
      (persist disk files file root lines).files.NoLinks := by
  have grows := makeDirectories_grows_spelled disk linkFree (recordPath file root).parent
  obtain ⟨grown, place, made, left, -, room, kept, located⟩ :=
    persist_steps (grows.noLinks linkFree).followsLinks well
  rw [made] at grows
  dsimp only at grows
  rw [left]
  have still := (grows.noLinks linkFree).set place
    (rfl : (Entry.file (Record.bytes lines)).isLink = false)
  refine ⟨place, located, ?_, ?_, fun q other bytes => ?_, still⟩
  · obtain ⟨_, _, leads⟩ := locate_eq_ok_iff.mp located
    have begins : (grown.set place (.file (Record.bytes lines))).start (recordPath file root) =
        files.start (recordPath file root) := by
      simp only [start, kept.working, grows.extends.working]
    have spelled := leads.place_eq still
    rw [begins] at spelled
    exact spelled
  · rcases grows.lookup place with same | ⟨free, _⟩
    · rw [same] at room
      cases held : files.lookup place with
      | none => exact .inl rfl
      | some entry =>
        cases entry with
        | directory => exact absurd held room
        | link target => exact absurd held (linkFree.lookup_ne place target)
        | file old => exact .inr ⟨old, rfl⟩
    · exact .inl free
  · rw [lookup_set_of_ne _ other]
    rcases grows.lookup q with same | ⟨free, there, _⟩
    · rw [same]
    · simp [free, there]

/-- The record of a request root lies directly in the tracking directory beside the artifact by its
path if and only if its name is a single part, or spells the tracking directory from a root; the
coordinates of an artifact without a slash always do. Where there are no symbolic links, a write
that goes well sets one file, which was free or a file before, and changes no other file; the file
lies where the path spells, so it lies directly in the tracking directory if the path does. -/
theorem record_contained_iff (file : Path) (root : RequestRoot) :
    ((recordPath file root).parent = trackingBeside file ↔
      (∃ name, Path.ofText root.fileName = ⟨.relative, [name]⟩) ∨
        (Path.ofText root.fileName).isAbsolute = true ∧
          (Path.ofText root.fileName).parent = trackingBeside file) ∧
    (∀ (a : Artifact) (scope : String), root = .artifact a ∨ root = .dependency ⟨a, scope⟩ →
      '/' ∉ a.text.toList → (recordPath file root).parent = trackingBeside file) ∧
    ∀ (disk : Disk) (files : FileSystem), files.NoLinks → ∀ (lines : List Wording) (path : Path)
      (after : FileSystem), (persist disk files file root lines).files = after →
      (persist disk files file root lines).answer = .ok ⟨path, none⟩ →
      ∃ place, after.lookup place = some (.file (Record.bytes lines)) ∧
        (files.lookup place = none ∨ ∃ old, files.lookup place = some (.file old)) ∧
        (∀ q, q ≠ place → ∀ bytes,
          after.lookup q = some (.file bytes) ↔ files.lookup q = some (.file bytes)) ∧
        place = spell (files.start (recordPath file root)) (recordPath file root).parts ∧
        ((recordPath file root).parent = trackingBeside file →
          ∃ directory name, place = directory ++ [name] ∧
            after.locate true (trackingBeside file) = .ok (.found directory .directory)) := by
  refine ⟨recordPath_parent_iff file root, ?_, ?_⟩
  · intro a scope of noSlash
    have same : root.text = a.text := by
      rcases of with rfl | rfl <;> rfl
    rw [recordPath_of_noSlash same noSlash]
    simp [Path.parent, Path.entry]
  · rintro disk files linkFree lines path _ rfl well
    obtain ⟨place, located, spelled, before, others, still⟩ := persist_sets_one linkFree well
    obtain ⟨_, _, leads⟩ := locate_eq_ok_iff.mp located
    exact ⟨place, leads.lookup_found, before, others, spelled,
      fun inside => place_of_recordPath still inside located⟩

/-- The record of an application beside `/lib.jar`. -/
theorem record_contained_library :
    let app : Artifact := { group := "com.x", name := "app", version := "1.0" }
    let after := (persist .ample ⟨[], []⟩ (.ofText "/lib.jar") (.artifact app) ["one"]).files
    after.lookup [".tracking", "com.x_app_1.0"] = some (.file (Record.bytes ["one"])) ∧
      ∃ directory name, [".tracking", "com.x_app_1.0"] = directory ++ [name] ∧
        after.locate true (.ofText "/.tracking") = .ok (.found directory .directory) := by
  intro app after
  have target : recordPath (.ofText "/lib.jar") (.artifact app) =
      ⟨.slash, [".tracking", "com.x_app_1.0"]⟩ := by decide
  have beside : trackingBeside (.ofText "/lib.jar") = .ofText "/.tracking" := by decide
  have name : IsName "com.x_app_1.0" := by decide
  have well : (persist .ample ⟨[], []⟩ (.ofText "/lib.jar") (.artifact app) ["one"]).answer =
      .ok ⟨recordPath (.ofText "/lib.jar") (.artifact app), none⟩ := by
    refine persist_succeeds (isTree_empty []) (by decide) (by decide) ?_ ?_ name ?_ ?_ ?_ <;>
      rw [target] <;> decide
  obtain ⟨child, slashless, wrote⟩ := record_contained_iff (.ofText "/lib.jar") (.artifact app)
  have inside := slashless app "" (.inl rfl) (by decide)
  obtain ⟨place, held, _, _, spelled, contained⟩ :=
    wrote .ample ⟨[], []⟩ (by decide) _ _ after rfl well
  have there : place = [".tracking", "com.x_app_1.0"] := by
    rw [spelled, target]
    decide
  subst there
  rw [← beside]
  exact ⟨held, contained inside⟩

/-- Coordinates that lead the record out of the tracking directory, over the library itself. -/
theorem recordPath_outside :
    ∃ a, Artifact.parse "g:a:1/../../lib.jar" = some a ∧
      (recordPath (.ofText "/repo/lib.jar") (.artifact a)).parent ≠
        trackingBeside (.ofText "/repo/lib.jar") ∧
      spell [] (recordPath (.ofText "/repo/lib.jar") (.artifact a)).parts = ["repo", "lib.jar"] :=
  ⟨{ group := "g", name := "a", version := "1/../../lib.jar" }, by decide⟩

end Provenance
