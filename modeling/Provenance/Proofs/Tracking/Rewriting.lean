import Provenance.Proofs.Tracking.RootNames

/-!
Records that are written again. A write that goes well leaves the tracking directory and the file of
the record behind, so the next write of the same root opens the same file and takes the whole place
of the first one: it ends as it would have ended alone, and leaves what it would have left, where
new entries find the room that they found at first (`persist_absorbs`). Like any write, it goes well
if its lines have bytes and the disk takes them.
-/
namespace Provenance

open FileSystem

/-- The answer to a write of a record, and what it leaves, depend on the file that is opened, on the
room there, and on what is beside it. -/
theorem persist_congr {disk other : Disk} (room : disk.room = other.room)
    {files files' grown grown' : FileSystem} {file : Path} {root : RequestRoot} {place : Location}
    (made : files.makeDirectories disk (recordPath file root).parent = (none, grown))
    (opened : grown.openPlace disk (recordPath file root) = .ok place)
    (made' : files'.makeDirectories other (recordPath file root).parent = (none, grown'))
    (opened' : grown'.openPlace other (recordPath file root) = .ok place)
    (beside : ∀ bytes, grown.set place (.file bytes) = grown'.set place (.file bytes))
    (lines : List Wording) :
    persist disk files file root lines = persist other files' file root lines := by
  simp only [persist, made, made', FileSystem.write, opened, opened', beside, Disk.stops, Disk.part,
    room]

/-- Where the file of a record is opened, the write goes well exactly if the lines have bytes and
the disk takes them. -/
theorem persist_well_iff {disk : Disk} {files grown : FileSystem} {file path : Path}
    {root : RequestRoot} {place : Location} {lines : List Wording}
    (made : files.makeDirectories disk (recordPath file root).parent = (none, grown))
    (opened : grown.openPlace disk (recordPath file root) = .ok place) :
    (persist disk files file root lines).answer = .ok ⟨path, none⟩ ↔
      path = recordPath file root ∧ Record.Encodable lines ∧
        disk.stops place (Record.bytes lines) = none := by
  simp only [persist, made, FileSystem.write, opened]
  cases stops : disk.stops place (Record.bytes lines) with
  | some shortage => simp [Persisted.stopped]
  | none =>
    cases encoded : Record.encode lines with
    | ok bytes => simp [(Record.encode_eq_ok_iff.mp encoded).1, eq_comm]
    | error fault => simp [Record.encode_eq_error_iff.mp ⟨fault, encoded⟩]

/-- A record that is written after another one of the same root, beside the same file, is answered
as it would have been alone, and leaves the files as it would have left them alone, where new
entries find the room that they found the first time, and the bytes the room that they find the
second time. It is written well exactly if its lines have bytes and the disk takes them. -/
theorem persist_absorbs {disk : Disk} {files : FileSystem} (tree : files.IsTree)
    (begins : files.StartsAtNoLink) {file path : Path} {root : RequestRoot}
    {linesA : List Wording}
    (first : (persist disk files file root linesA).answer = .ok ⟨path, none⟩) (later : Disk)
    (linesB : List Wording) :
    let after := (persist disk files file root linesA).files
    let again := persist later after file root linesB
    let alone := persist ⟨disk.bars, later.room⟩ files file root linesB
    again.answer = alone.answer ∧ again.files = alone.files ∧
      ∃ place, after.openPlace later path = .ok place ∧
        (again.answer = .ok ⟨path, none⟩ ↔
          Record.Encodable linesB ∧ later.stops place (Record.bytes linesB) = none) := by
  intro after again alone
  obtain ⟨grown, place, made, opened, done, -⟩ := persist_of_well first
  have same : path = recordPath file root := ((persist_well_iff made opened).mp first).1
  have grows : Grows (fun _ => True) files
      (files.makeDirectories disk (recordPath file root).parent).2 :=
    files.makeDirectories_grows _ fun _ _ _ _ _ _ _ => trivial
  have follows := (grows.isTree tree).followsLinks (begins.grows grows)
  have entered := locate_of_makeDirectories (by rw [made] :
    (files.makeDirectories disk (recordPath file root).parent).1 = none)
  rw [made] at entered follows
  obtain ⟨-, kept, located⟩ := openPlace_eq follows opened (Record.bytes linesA)
  -- The directory is there still, and the file that the first write left is opened once more, so
  -- the disk need not have room for an entry any more.
  have left : after = grown.set place (.file (Record.bytes linesA)) := by
    simp only [after, done]
  rw [← left] at kept located
  have made' : after.makeDirectories later (recordPath file root).parent = (none, after) :=
    makeDirectories_of_directory (isDirectory_extends kept (isDirectory_eq_true_iff.mpr entered))
  have opened' : after.openPlace later (recordPath file root) = .ok place :=
    openPlace_eq_ok_iff.mpr (.inl ⟨_, located, by simp⟩)
  have agree : again = alone := by
    have room : later.room = Disk.room ⟨disk.bars, later.room⟩ := rfl
    have bars : disk.bars = Disk.bars ⟨disk.bars, later.room⟩ := rfl
    refine persist_congr room made' opened' ((makeDirectories_congr bars files _).symm.trans made)
      ((openPlace_congr bars grown _).symm.trans opened) (fun bytes => ?_) linesB
    rw [left, set_set]
  refine ⟨by rw [agree], by rw [agree], place, by rw [same]; exact opened', ?_⟩
  exact (persist_well_iff made' opened').trans (and_iff_right same)

/-- The first write goes through a link that leads to a free place; the second one finds a file
there, longer than what it writes itself. -/
theorem persist_absorbs_link :
    let files : FileSystem :=
      ⟨[([".tracking"], .directory), ([".tracking", "g_a_1"], .link "../kept")], []⟩
    let file : Path := ⟨.slash, ["lib.jar"]⟩
    let root : RequestRoot := .named "g:a:1"
    let after := (persist .ample files file root ["one", "two"]).files
    after = files.set ["kept"] (.file (Record.bytes ["one", "two"])) ∧
      (persist .ample after file root ["new"]).answer = .ok ⟨recordPath file root, none⟩ ∧
      (persist .ample after file root ["new"]).files =
        (persist .ample files file root ["new"]).files := by
  intro files file root after
  have target : recordPath file root = ⟨.slash, [".tracking", "g_a_1"]⟩ := by decide
  have tracking : files.Leads true maxLinks [] [".tracking"] (.found [".tracking"] .directory) :=
    .down rfl (by decide) rfl (by simp) (.stay rfl)
  have onward : files.Leads true 39 (linkBase [".tracking"] "../kept")
      (Text.fieldsOf '/' "../kept" ++ []) (.free ["kept"]) := by
    have fields : Text.fieldsOf '/' "../kept" = ["..", "kept"] := by decide
    rw [fields]
    exact .up rfl (.free rfl (by decide) rfl)
  have dangling : files.Leads true maxLinks [] [".tracking", "g_a_1"] (.free ["kept"]) :=
    .down rfl (by decide) rfl (by simp) (.through rfl (by decide) rfl (by simp) onward)
  have there : files.isDirectory (recordPath file root).parent = .ok true := by
    rw [target]
    exact isDirectory_eq_true_iff.mpr
      ⟨_, locate_eq_ok_iff.mpr ⟨by decide, by decide, tracking⟩⟩
  have free : files.locate true (recordPath file root) = .ok (.free ["kept"]) := by
    rw [target]
    exact locate_eq_ok_iff.mpr ⟨by decide, by decide, dangling⟩
  have once := persist_of_directory ["one", "two"] (by decide) (Disk.stops_ample _ _) there
    (openPlace_eq_ok_iff.mpr (.inr ⟨free, rfl⟩))
  have first : (persist .ample files file root ["one", "two"]).answer =
      .ok ⟨recordPath file root, none⟩ := by rw [once]
  have left : after = files.set ["kept"] (.file (Record.bytes ["one", "two"])) := by
    simp only [after, once]
  have begins : files.StartsAtNoLink := fun target link => by cases link
  obtain ⟨-, same, place, -, well⟩ := persist_absorbs (by decide) begins first .ample ["new"]
  exact ⟨left, well.mpr ⟨by decide, Disk.stops_ample _ _⟩, same⟩

/-- A record without lines is written on a full disk, but not with a line after that; nor is it on
any disk if a surrogate stands alone in the line. -/
theorem persist_again_refused :
    let files : FileSystem := ⟨[([".tracking"], .directory)], []⟩
    let file : Path := ⟨.slash, ["lib.jar"]⟩
    let root : RequestRoot := .named "g:a:1"
    let after := (persist .full files file root []).files
    (persist .full files file root []).answer = .ok ⟨recordPath file root, none⟩ ∧
      (persist .full after file root ["x"]).answer =
        .ok ⟨recordPath file root, some (.ofFile .trackingWriteFailed (recordPath file root)
          (.stopped .space))⟩ ∧
      (persist .ample after file root [[.lone 0]]).answer =
        .error (.unencodable ⟨"utf-8", 0, [0xD800], "surrogates not allowed"⟩) := by
  intro files file root after
  have target : recordPath file root = ⟨.slash, [".tracking", "g_a_1"]⟩ := by decide
  let kept := files.set [".tracking", "g_a_1"] (.file [])
  obtain ⟨made, opened⟩ : files.makeDirectories .full (recordPath file root).parent =
        (none, files) ∧
      files.openPlace .full (recordPath file root) = .ok [".tracking", "g_a_1"] := by
    rw [target]
    exact Clear.opens (by decide) (isTree_iff.mpr (by decide)) (by decide) rfl (by decide)
      (by decide) (by decide) rfl nofun fun _ => rfl
  have again (disk : Disk) : kept.makeDirectories disk (recordPath file root).parent =
        (none, kept) ∧
      kept.openPlace disk (recordPath file root) = .ok [".tracking", "g_a_1"] := by
    rw [target]
    exact Clear.opens (by decide) (isTree_iff.mpr (by decide)) (by decide) rfl (by decide)
      (by decide) (by decide) rfl nofun nofun
  have first : persist .full files file root [] =
      ⟨.ok ⟨recordPath file root, none⟩, kept, []⟩ := by
    simp only [persist, made, FileSystem.write, opened]
    rfl
  have left : after = kept := by simp only [after, first]
  refine ⟨by rw [first], ?_⟩
  rw [left]
  simp only [persist, again, FileSystem.write]
  exact ⟨rfl, rfl⟩

end Provenance
