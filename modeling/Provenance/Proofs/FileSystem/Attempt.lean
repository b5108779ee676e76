import Provenance.Proofs.FileSystem.Directory
import Provenance.Proofs.FileSystem.Overwrite

/-!
Attempts to make directories and to open files. Making directories succeeds if and only if the path
leads to a directory in the end (`makeDirectories_eq_none_iff`). Whatever it ends in, it adds
directories that the path passes, and changes nothing else (`makeDirectories_lookup`). A file can be
opened if and only if its path leads to a free place that the disk has room at, or to anything but a
directory (`canOpen_iff`).
-/
namespace Provenance.FileSystem

variable {disk : Disk}

/-! ## Directories -/

/-- A path with parts only leads anywhere if the path above it leads to a directory. -/
theorem locate_parent {fs : FileSystem} {follow : Bool} {p : Path} {d : Destination}
    (nonempty : p.parts ≠ []) (located : fs.locate follow p = .ok d) :
    ∃ place, fs.locate true p.parent = .ok (.found place .directory) := by
  obtain ⟨above, last, split⟩ := (List.eq_nil_or_concat p.parts).resolve_left nonempty
  rw [List.concat_eq_append] at split
  have parts : p.parent.parts ++ [last] = p.parts := by simp [Path.parent, split]
  have whole : { p.parent with parts := p.parent.parts ++ [last] } = p := by
    rw [parts]
    rfl
  by_cases written : p.parent.isAbsolute = true ∨ p.parent.parts ≠ []
  · rw [← whole] at located
    exact locate_above written (List.cons_ne_nil last []) located
  · -- The path is a single name, and what is above it is the working directory.
    have bare : p.parent.root = .relative ∧ p.parent.parts = [] := by
      simpa [Path.isAbsolute] using written
    have here : p.parent.text = "." := if_pos bare
    obtain ⟨_, _, leads⟩ := locate_eq_ok_iff.mp located
    rw [← parts] at leads
    obtain ⟨place, entered⟩ := leads.init
    refine ⟨place, locate_eq_ok_iff.mpr ⟨?_, ?_, entered⟩⟩ <;> rw [here] <;> decide

theorem excuse_eq_none_iff (fs : FileSystem) (p : Path) :
    (excuse p (fs.makeDirectory disk p)).1 = none ↔
      (fs.makeDirectory disk p).2.isDirectory p = .ok true := by
  constructor
  · intro excused
    exact isDirectory_eq_true_iff.mpr (locate_of_excuse locate_of_makeDirectory excused)
  · intro there
    rcases fs.makeDirectory_cases disk p with ⟨e, refused⟩ | ⟨place, located, -, made⟩
    · rw [refused] at there
      rw [makeDirectory_of_directory there]
      simp [excuse, there]
    · rw [made]
      rfl

/-- Making directories succeeds if and only if the path leads to a directory in the end. -/
theorem makeDirectories_eq_none_iff (disk : Disk) (fs : FileSystem) (p : Path) :
    (fs.makeDirectories disk p).1 = none ↔
      (fs.makeDirectories disk p).2.isDirectory p = .ok true := by
  constructor
  · intro made
    exact isDirectory_eq_true_iff.mpr (locate_of_makeDirectories made)
  · fun_induction makeDirectories disk fs p with
    | case1 fs p path after refused =>
      intro there
      cases makeDirectory_refused refused
      rw [makeDirectory_of_directory there] at refused
      cases refused
    | case2 fs p path after refused nonempty parents above =>
      rw [excuse_files]
      exact (excuse_eq_none_iff parents p).mpr
    | case3 fs p path after refused nonempty failed ih =>
      intro there
      obtain ⟨place, located⟩ := isDirectory_eq_true_iff.mp there
      exact ih (isDirectory_eq_true_iff.mpr (locate_parent nonempty located))
    | case4 fs p =>
      rw [excuse_files]
      exact (excuse_eq_none_iff fs p).mpr

/-- A path passes a directory if the path itself or a beginning of it leads there. -/
def Passes (fs : FileSystem) (p : Path) (place : Location) : Prop :=
  ∃ above : Path, above.root = p.root ∧ above.parts <+: p.parts ∧
    fs.locate true above = .ok (.found place .directory)

/-- An attempt to make one directory makes that directory, or changes nothing. -/
theorem makeDirectory_lookup (disk : Disk) (fs : FileSystem) (p : Path) (q : Location) :
    (fs.makeDirectory disk p).2.lookup q = fs.lookup q ∨
      fs.lookup q = none ∧ (fs.makeDirectory disk p).2.lookup q = some .directory ∧
        (fs.makeDirectory disk p).2.Passes p q := by
  rcases fs.makeDirectory_cases disk p with ⟨e, refused⟩ | ⟨place, located, -, made⟩
  · exact .inl (by rw [refused])
  · rw [made]
    by_cases same : q = place
    · subst same
      obtain ⟨noNull, short, leads⟩ := locate_eq_ok_iff.mp located
      obtain ⟨_, _, rfl, _, _, free⟩ := leads.free_place
      have noLink : ∀ target, Entry.directory ≠ .link target := by simp
      have entered := leads.taken noLink
      refine .inr ⟨free, entered.lookup_found, p, rfl, List.prefix_refl _, ?_⟩
      exact locate_eq_ok_iff.mpr ⟨noNull, short, entered⟩
    · exact .inl (lookup_set_of_ne _ same)

/-- An attempt to make directories adds directories that the path passes, and changes nothing else,
whatever it ends in. -/
theorem makeDirectories_lookup (disk : Disk) (fs : FileSystem) (p : Path) (q : Location) :
    (fs.makeDirectories disk p).2.lookup q = fs.lookup q ∨
      fs.lookup q = none ∧ (fs.makeDirectories disk p).2.lookup q = some .directory ∧
        (fs.makeDirectories disk p).2.Passes p q := by
  fun_induction makeDirectories disk fs p with
  | case1 fs p path after refused =>
    cases makeDirectory_refused refused
    exact .inl rfl
  | case2 fs p path after refused nonempty parents above ih =>
    cases makeDirectory_refused refused
    rw [above] at ih
    rw [excuse_files]
    have onward : Grows (fun _ => True) parents (parents.makeDirectory disk p).2 :=
      parents.makeDirectory_grows p fun _ _ => trivial
    rcases parents.makeDirectory_lookup disk p q with same | ⟨free, new⟩
    · rcases ih with old | ⟨absent, there, outer, root, begins, passed⟩
      · exact .inl (same.trans old)
      · refine .inr ⟨absent, same.trans there, outer, root, ?_, onward.locate passed⟩
        exact begins.trans (List.dropLast_prefix _)
    · rcases ih with old | ⟨_, there, _⟩
      · exact .inr ⟨old.symm.trans free, new⟩
      · rw [free] at there
        cases there
  | case3 fs p path after refused nonempty failed ih =>
    cases makeDirectory_refused refused
    rcases ih with old | ⟨absent, there, outer, root, begins, passed⟩
    · exact .inl old
    · have within := begins.trans (List.dropLast_prefix _)
      exact .inr ⟨absent, there, outer, root, within, passed⟩
  | case4 fs p =>
    rw [excuse_files]
    exact fs.makeDirectory_lookup disk p q

/-! ## Files -/

/-- A file can be opened for writing at a path that leads to a free place that the disk has room at,
or to anything but a directory. -/
def CanOpen (disk : Disk) (fs : FileSystem) (p : Path) : Prop :=
  ∃ d, fs.locate true p = .ok d ∧ (∀ place, d ≠ .found place .directory) ∧
    ∀ place, d = .free place → disk.bars place = none

theorem canOpen_iff {fs : FileSystem} {p : Path} :
    fs.CanOpen disk p ↔ ∃ place, fs.openPlace disk p = .ok place := by
  simp only [openPlace_eq_ok_iff]
  constructor
  · rintro ⟨d, located, noDirectory, unbarred⟩
    cases d with
    | free place => exact ⟨place, .inr ⟨located, unbarred place rfl⟩⟩
    | found place entry =>
      exact ⟨place, .inl ⟨entry, located, fun same => noDirectory place (by rw [same])⟩⟩
  · rintro ⟨place, ⟨entry, located, notDirectory⟩ | ⟨located, unbarred⟩⟩
    · exact ⟨_, located, fun other same => notDirectory (Destination.found.inj same).2, by simp⟩
    · exact ⟨_, located, by simp, fun other same => Destination.free.inj same ▸ unbarred⟩

end Provenance.FileSystem
