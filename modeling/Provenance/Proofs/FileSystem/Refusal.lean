import Provenance.Proofs.FileSystem.Directory

/-!
Paths that no file operation looks at. A path with a NUL in its text is refused at once; an
operation that ends in this refusal was given such a path.
-/
namespace Provenance.FileSystem

theorem locate_null_iff (fs : FileSystem) (follow : Bool) (p : Path) :
    fs.locate follow p = .error .embeddedNull ↔ '\x00' ∈ p.text.toList := by
  unfold locate
  by_cases null : '\x00' ∈ p.text.toList
  · simp [null]
  · rw [if_neg (by simpa using null)]
    constructor
    · intro refused
      split at refused
      · cases refused
      · split at refused <;> cases refused
    · intro inside
      exact absurd inside null

/-- A directory is found in a path without a NUL if the path goes on without one. -/
theorem null_of_parent {p : Path} (null : '\x00' ∈ p.parent.text.toList) :
    '\x00' ∈ p.text.toList := by
  rw [Path.mem_text_iff (by decide) (by decide)] at null ⊢
  obtain ⟨part, member, inside⟩ := null
  exact ⟨part, (List.dropLast_prefix _).subset member, inside⟩

theorem makeDirectory_null_iff (disk : Disk) (fs : FileSystem) (p : Path) :
    (fs.makeDirectory disk p).1 = some .embeddedNull ↔ '\x00' ∈ p.text.toList := by
  rw [← locate_null_iff fs false, makeDirectory]
  split
  · rename_i refused
    simp [refused]
  · rename_i located
    simp [located]
  · rename_i place located
    cases disk.bars place <;> simp [located]

theorem excuse_null_iff {p : Path} {done : Option FileError × FileSystem} :
    (excuse p done).1 = some .embeddedNull ↔ done.1 = some .embeddedNull := by
  unfold excuse
  split
  · split
    · simp
    · split
      · simp
      · simp
      · rename_i e asked
        obtain ⟨rfl, -⟩ := isDirectory_eq_error_iff.mp asked
        simp
  · rfl

/-- Making directories is refused for a NUL if and only if the path has one. -/
theorem makeDirectories_null_iff (disk : Disk) (fs : FileSystem) (p : Path) :
    (fs.makeDirectories disk p).1 = some .embeddedNull ↔ '\x00' ∈ p.text.toList := by
  fun_induction makeDirectories disk fs p with
  | case1 fs p path after refused =>
    rw [← makeDirectory_null_iff disk fs p, refused]
  | case2 fs p path after refused nonempty parents above =>
    rw [excuse_null_iff, makeDirectory_null_iff]
  | case3 fs p path after refused nonempty failed ih =>
    have clean : '\x00' ∉ p.text.toList := by
      rw [← makeDirectory_null_iff disk fs p, refused]
      simp
    rw [ih]
    exact iff_of_false (fun null => clean (null_of_parent null)) clean
  | case4 fs p other =>
    rw [excuse_null_iff, makeDirectory_null_iff]

theorem openRefusal_null_iff {fs : FileSystem} {p : Path} {e : FileError} :
    fs.openRefusal p e = .embeddedNull ↔ e = .embeddedNull := by
  unfold openRefusal
  split
  · rfl
  · split_ifs <;> simp

theorem openPlace_null_iff (disk : Disk) (fs : FileSystem) (p : Path) :
    fs.openPlace disk p = .error .embeddedNull ↔ '\x00' ∈ p.text.toList := by
  rw [← locate_null_iff fs true, openPlace]
  split
  · rename_i refused
    simp [refused, openRefusal_null_iff]
  · rename_i located
    simp [located]
  · rename_i located
    simp [located]
  · rename_i place located
    cases disk.bars place <;> simp [located]

end Provenance.FileSystem
