import Provenance.Proofs.FileSystem.Attempt
import Provenance.Proofs.Tracking.Writing

/-!
Writes of records that do not succeed. The answer tells which of the steps failed, and why: the
tracking directory if its path leads to no directory in the end, and otherwise the file if it cannot
be opened or the disk does not take all of it; lines without bytes are the one failure that no
diagnostic tells of. Nothing is lost but what the file held that was opened, and no more than
directories on the way is added besides that file (`persist_classified`).
-/
namespace Provenance

open FileSystem

/-- The diagnostic tells that an operation on a path failed: the fault is its cause, and in words
its detail. -/
structure Diagnostic.Tells (d : Diagnostic) (code : ErrorCode) (subject : Path)
    (fault : WriteFault) : Prop where
  code : d.code = code
  context : d.context = [("path", .text subject.text), ("detail", .text fault.message)]
  cause : d.cause = some (.file fault)

/-- What an attempt to make a directory leaves behind: every entry is as it was, and what is new are
directories that the path passes. -/
theorem makeDirectories_adds (files : FileSystem) (path : Path) :
    (files.makeDirectories disk path).2.working = files.working ∧
      ∀ place, (files.makeDirectories disk path).2.lookup place = files.lookup place ∨
        files.lookup place = none ∧
          (files.makeDirectories disk path).2.lookup place = some .directory ∧
          (files.makeDirectories disk path).2.Passes path place := by
  have grows : Grows (fun _ => True) files (files.makeDirectories disk path).2 :=
    files.makeDirectories_grows _ fun _ _ _ _ _ _ _ => trivial
  exact ⟨grows.extends.working, files.makeDirectories_lookup disk path⟩

/-- The disk takes the bytes of the lines in the file that a path is opened at, if it is. -/
def Disk.Takes (disk : Disk) (fs : FileSystem) (p : Path) (lines : List Wording) : Prop :=
  ∀ place, fs.openPlace disk p = .ok place → disk.stops place (Record.bytes lines) = none

theorem Disk.takes_iff {disk : Disk} {fs : FileSystem} {p : Path} {lines : List Wording}
    {place : Location} (opened : fs.openPlace disk p = .ok place) :
    disk.Takes fs p lines ↔ disk.stops place (Record.bytes lines) = none := by
  refine ⟨fun takes => takes place opened, fun taken other again => ?_⟩
  cases opened.symm.trans again
  exact taken

/-- What a write of a record leaves of the files: every entry is as it was, or a new directory on
the way to the record, or the file of the record, which holds what the disk took. -/
theorem persist_leaves (disk : Disk) (files : FileSystem) (file : Path) (root : RequestRoot)
    (lines : List Wording) :
    let target := recordPath file root
    let made := files.makeDirectories disk target.parent
    let left := (persist disk files file root lines).files
    left.working = files.working ∧
      ∀ place, left.lookup place = files.lookup place ∨
        (files.lookup place = none ∧ left.lookup place = some .directory ∧
          made.2.Passes target.parent place) ∨
        (made.1 = none ∧ made.2.openPlace disk target = .ok place ∧
          left.lookup place = some (.file (disk.part place (Record.bytes lines)))) := by
  intro target made left
  obtain ⟨working, adds⟩ := makeDirectories_adds files target.parent
  rcases (persist_goes disk files file root lines).leaves with
    same | ⟨grown, here, done, opened, same⟩
  · rw [show left = made.2 from same]
    exact ⟨working, fun place => (adds place).imp_right .inl⟩
  · rw [show left = _ from same]
    have attempt : made = (none, grown) := done
    rw [show files.makeDirectories disk target.parent = (none, grown) from done] at working adds
    refine ⟨working, fun place => ?_⟩
    by_cases there : place = here
    · subst there
      rw [attempt, lookup_set_self _ _ (openPlace_ne_root opened)]
      exact .inr (.inr ⟨rfl, opened, rfl⟩)
    · rw [attempt, lookup_set_of_ne _ there]
      exact (adds place).imp_right .inl

/-- The diagnostic that an attempt is answered with tells of one step only. -/
theorem answered_tells_iff {target subject other : Path} {fault : WriteFault}
    {code another : ErrorCode} {P : WriteFault → Prop} :
    (∃ d e, (.ok ⟨target, some (.ofFile code subject fault)⟩ : Except Failure Persisted) =
        .ok ⟨target, some d⟩ ∧ d.Tells another other e ∧ P e) ↔
      another = code ∧ other.text = subject.text ∧ P fault := by
  constructor
  · rintro ⟨d, e, same, tells, holds⟩
    cases same
    have context := tells.context
    have cause := tells.cause
    simp only [Diagnostic.ofFile, Diagnostic.aboutPath, Diagnostic.about, List.cons.injEq,
      Prod.mk.injEq, Value.text.injEq, Option.some.injEq, Cause.file.injEq] at context cause
    subst cause
    exact ⟨tells.code.symm, context.1.2.symm, holds⟩
  · rintro ⟨rfl, same, holds⟩
    refine ⟨_, fault, rfl, ⟨rfl, ?_, rfl⟩, holds⟩
    rw [same]
    rfl

/-- An attempt to write a record, whatever the files and the disk are, is told by four questions
about the files after the attempt to make the tracking directory: whether its path leads to a
directory then, whether the file can be opened, whether the disk takes the bytes, and whether the
lines have bytes. If the first answer is no, the attempt to make the directory is what the
diagnostic tells of; if it is yes, but the second or the third is no, it is the attempt to write.
Where the file was opened for lines without bytes, no diagnostic is given. In all cases every entry
is as it was but for that of the file that was opened, and what is new besides are directories that
the path of the tracking directory passes. -/
theorem persist_classified (disk : Disk) (files : FileSystem) {file : Path} {root : RequestRoot}
    (lines : List Wording) (plainFile : '\x00' ∉ file.text.toList)
    (plainRoot : '\x00' ∉ root.text.toList) :
    let target := recordPath file root
    let made := files.makeDirectories disk target.parent
    let there := made.2.isDirectory target.parent = .ok true
    let written := persist disk files file root lines
    (written.answer = .ok ⟨target, none⟩ ↔
      there ∧ made.2.CanOpen disk target ∧ disk.Takes made.2 target lines ∧
        Record.Encodable lines) ∧
    ((∃ d e, written.answer = .ok ⟨target, some d⟩ ∧
        d.Tells .trackingDirectoryFailed target.parent e ∧ made.1.map .refused = some e) ↔
      ¬there) ∧
    ((∃ d e, written.answer = .ok ⟨target, some d⟩ ∧ d.Tells .trackingWriteFailed target e ∧
        (made.2.write disk target (Record.bytes lines)).1 = some e) ↔
      there ∧ ¬(made.2.CanOpen disk target ∧ disk.Takes made.2 target lines)) ∧
    ((∃ fault, written.answer = .error (.unencodable fault)) ↔
      there ∧ made.2.CanOpen disk target ∧ ¬Record.Encodable lines) ∧
    written.files.working = files.working ∧
      ∀ place, written.files.lookup place = files.lookup place ∨
        (files.lookup place = none ∧ written.files.lookup place = some .directory ∧
          made.2.Passes target.parent place) ∨
        (there ∧ made.2.openPlace disk target = .ok place ∧
          written.files.lookup place =
            some (.file (disk.part place (Record.bytes lines)))) := by
  dsimp only
  have noNull := recordPath_noNull plainFile plainRoot
  have made_iff := makeDirectories_eq_none_iff disk files (recordPath file root).parent
  have leaves := persist_leaves disk files file root lines
  simp only [made_iff] at leaves
  suffices classified : _ ∧ _ ∧ _ ∧ _ from
    ⟨classified.1, classified.2.1, classified.2.2.1, classified.2.2.2, leaves⟩
  have goes := persist_goes disk files file root lines
  generalize persist disk files file root lines = written at goes
  cases goes with
  | @unmade e grown attempt =>
    have looked : WriteFault.refused e ≠ .refused .embeddedNull := by
      rintro ⟨⟩
      refine noNull (null_of_parent ((makeDirectories_null_iff disk files _).mp ?_))
      rw [attempt]
    rw [attempt] at made_iff
    have missing := mt made_iff.mpr (by simp)
    rw [Persisted.stopped_answer looked, attempt]
    simp only [answered_tells_iff, missing]
    simp
  | @unopened e grown attempt refused =>
    have looked : WriteFault.refused e ≠ .refused .embeddedNull := by
      rintro ⟨⟩
      exact noNull ((openPlace_null_iff disk grown _).mp refused)
    rw [attempt] at made_iff
    have closed : ¬grown.CanOpen disk (recordPath file root) := by simp [canOpen_iff, refused]
    rw [Persisted.stopped_answer looked, attempt]
    simp only [answered_tells_iff, made_iff.mp rfl, closed, FileSystem.write, refused]
    simp
  | @stopped grown place shortage attempt opened stops =>
    rw [attempt] at made_iff
    have encodable : Record.Encodable lines := by
      by_contra unencodable
      obtain ⟨fault, refused⟩ := Record.encode_eq_error_iff.mpr unencodable
      rw [Record.bytes_of_error refused, Disk.stops_nil] at stops
      cases stops
    rw [Persisted.stopped_answer (by simp), attempt]
    simp only [answered_tells_iff, made_iff.mp rfl, Disk.takes_iff opened, FileSystem.write, opened,
      stops, encodable]
    simp
  | @unencodable grown place fault attempt opened refused =>
    rw [attempt] at made_iff ⊢
    have opens := canOpen_iff.mpr ⟨place, opened⟩
    have unencodable := Record.encode_eq_error_iff.mp ⟨fault, refused⟩
    have taken : disk.stops place (Record.bytes lines) = none := by
      rw [Record.bytes_of_error refused, Disk.stops_nil]
    simp [made_iff.mp rfl, opens, unencodable, Disk.takes_iff opened, taken]
  | @written grown place attempt opened stops encodable =>
    rw [attempt] at made_iff ⊢
    have opens := canOpen_iff.mpr ⟨place, opened⟩
    simp [made_iff.mp rfl, opens, encodable, Disk.takes_iff opened, stops]

/-- A link to itself in the root directory leads nowhere. -/
theorem not_leads_of_loop {fs : FileSystem} {name : String} (proper : IsName name)
    (relative : linkBase [] name = []) (single : Text.fieldsOf '/' name = [name])
    (held : fs.lookup [name] = some (.link name)) {links : Nat} {d : Destination} :
    ¬fs.Leads true links [] [name] d := by
  intro leads
  induction links with
  | zero =>
    cases leads with
    | idle _ idle => simp [proper.notIdle] at idle
    | up => exact proper.notUp rfl
    | free _ _ absent => simp [held] at absent
    | atLink _ _ _ stop => cases stop
    | down _ _ found noLink => exact noLink _ (Option.some.inj (found.symm.trans held))
  | succ links ih =>
    cases leads with
    | idle _ idle => simp [proper.notIdle] at idle
    | up => exact proper.notUp rfl
    | free _ _ absent => simp [held] at absent
    | atLink _ _ _ stop => cases stop
    | through _ _ link _ onward =>
      -- One link further the walk is where it began.
      cases held.symm.trans link
      rw [relative, single] at onward
      exact ih onward
    | down _ _ found noLink => exact noLink _ (Option.some.inj (found.symm.trans held))

/-- A tracking directory that is a link to itself cannot be made, and stays as it is. -/
theorem persist_classified_loop :
    let files : FileSystem := ⟨[([".tracking"], .link ".tracking")], []⟩
    let file : Path := ⟨.slash, ["lib.jar"]⟩
    let root : RequestRoot := .named "g:a:1"
    let written := persist .ample files file root ["one"]
    ∃ d, written.answer = .ok ⟨recordPath file root, some d⟩ ∧ d.code = .trackingDirectoryFailed ∧
      written.files.lookup [".tracking"] = some (.link ".tracking") := by
  intro files file root written
  have parent : (recordPath file root).parent = ⟨.slash, [".tracking"]⟩ := by decide
  obtain ⟨-, unmade, -, -, -, kept⟩ :=
    persist_classified .ample files ["one"] (by decide : '\x00' ∉ file.text.toList)
      (by decide : '\x00' ∉ root.text.toList)
  have missing : (files.makeDirectories .ample (recordPath file root).parent).2.isDirectory
      (recordPath file root).parent ≠ .ok true := by
    intro there
    obtain ⟨place, located⟩ := isDirectory_eq_true_iff.mp there
    obtain ⟨_, _, leads⟩ := locate_eq_ok_iff.mp located
    rcases files.makeDirectories_lookup .ample (recordPath file root).parent [".tracking"] with
      same | ⟨absent, _⟩
    · rw [parent] at leads same
      exact not_leads_of_loop (by decide) (by decide) (by decide) same leads
    · cases absent
  obtain ⟨d, e, answer, told, _⟩ := unmade.mpr missing
  refine ⟨d, answer, told.code, ?_⟩
  rcases kept [".tracking"] with same | ⟨absent, _⟩ | ⟨there, _⟩
  · exact same
  · cases absent
  · exact absurd there missing

/-- On a full disk the file of a record can be opened, but what was in it is lost, and the write is
answered with the diagnostic of a file that could not be written. Lines without bytes empty it, too,
and no diagnostic tells of that. -/
theorem persist_loses :
    let files : FileSystem := ⟨[([".tracking"], .directory),
      ([".tracking", "g_a_1"], .file (Record.bytes ["old"]))], []⟩
    let file : Path := ⟨.slash, ["lib.jar"]⟩
    let root : RequestRoot := .named "g:a:1"
    let full := persist .full files file root ["new"]
    let lone := persist .ample files file root [[.lone 0]]
    files.CanOpen .full (recordPath file root) ∧
      full.answer = .ok ⟨recordPath file root,
        some (.ofFile .trackingWriteFailed (recordPath file root) (.stopped .space))⟩ ∧
      full.files.lookup [".tracking", "g_a_1"] = some (.file []) ∧
      lone.answer = .error (.unencodable ⟨"utf-8", 0, [0xD800], "surrogates not allowed"⟩) ∧
      lone.files.lookup [".tracking", "g_a_1"] = some (.file []) := by
  intro files file root full lone
  have target : recordPath file root = ⟨.slash, [".tracking", "g_a_1"]⟩ := by decide
  have opens (disk : Disk) :
      files.makeDirectories disk (recordPath file root).parent = (none, files) ∧
        files.openPlace disk (recordPath file root) = .ok [".tracking", "g_a_1"] := by
    rw [target]
    exact Clear.opens (by decide) (isTree_iff.mpr (by decide)) (by decide) rfl (by decide)
      (by decide) (by decide) rfl nofun nofun
  refine ⟨canOpen_iff.mpr ⟨_, (opens .full).2⟩, ?_⟩
  simp only [full, lone, persist, opens, FileSystem.write]
  exact ⟨rfl, rfl, rfl, rfl⟩

end Provenance
