import Provenance.Proofs.FileSystem.Overwrite
import Provenance.Proofs.FileSystem.Progress
import Provenance.Proofs.FileSystem.Refusal
import Provenance.Proofs.Text.Wording
import Provenance.Tracking.Listener

/-!
What one write of a record does to the files. It goes one of five ways (`persist_goes`): the
tracking directory cannot be made, the file cannot be opened, the disk does not take all of it, the
lines have no bytes, or the record is written. In the last three the file was opened, and what it
held before is gone. The bytes of lines read back as the lines if no line has a boundary in it
(`decode_bytes_iff`).
-/
namespace Provenance

/-! ## The bytes of a record -/

namespace Record

/-- Lines that have bytes: no surrogate stands alone in them. -/
def Encodable (lines : List Wording) : Prop := ∀ line ∈ lines, line.IsText

instance (lines : List Wording) : Decidable (Encodable lines) :=
  List.decidableBAll _ _

theorem encode_eq_ok_iff {lines : List Wording} {bytes : List UInt8} :
    encode lines = .ok bytes ↔ Encodable lines ∧ bytes = Record.bytes lines := by
  have encodable : (∃ bytes, encode lines = .ok bytes) ↔ Encodable lines := by
    unfold Encodable
    rw [← Wording.isText_terminated_iff, Wording.isText_iff_exists]
    simp only [encode, Wording.encode_eq_ok_iff]
    exact ⟨fun ⟨_, s, same, _⟩ => ⟨s, same⟩, fun ⟨s, same⟩ => ⟨_, s, same, rfl⟩⟩
  rw [← encodable]
  constructor
  · intro encoded
    exact ⟨⟨bytes, encoded⟩, by simp [Record.bytes, encoded, Except.toOption]⟩
  · rintro ⟨⟨other, encoded⟩, rfl⟩
    simp [Record.bytes, encoded, Except.toOption]

theorem encode_eq_error_iff {lines : List Wording} :
    (∃ fault, encode lines = .error fault) ↔ ¬Encodable lines := by
  cases encoded : encode lines with
  | ok bytes => simpa using (encode_eq_ok_iff.mp encoded).1
  | error fault =>
    refine iff_of_true ⟨fault, rfl⟩ fun encodable => ?_
    rw [encode_eq_ok_iff.mpr ⟨encodable, rfl⟩] at encoded
    cases encoded

theorem bytes_of_error {lines : List Wording} {fault : Text.EncodeFault}
    (unencodable : encode lines = .error fault) : bytes lines = [] := by
  simp [bytes, unencodable, Except.toOption]

/-- The bytes of lines of characters are those of the text that ends each of them. -/
theorem bytes_ofChars (texts : List (List Char)) :
    bytes (texts.map Wording.ofChars) = Text.Utf8.encode (Text.terminated '\n' texts) := by
  have encoded : encode (texts.map Wording.ofChars) =
      .ok (Text.Utf8.encode (Text.terminated '\n' texts)) :=
    Wording.encode_eq_ok_iff.mpr ⟨_, Wording.terminated_ofChars texts, rfl⟩
  exact (encode_eq_ok_iff.mp encoded).2.symm

theorem encodable_iff_exists {lines : List Wording} :
    Encodable lines ↔ ∃ texts : List (List Char), lines = texts.map Wording.ofChars := by
  constructor
  · intro encodable
    refine ⟨lines.map fun line => (line.chars?.getD []), ?_⟩
    rw [List.map_map]
    refine (List.map_id lines).symm.trans (List.map_congr_left fun line member => ?_)
    obtain ⟨s, rfl⟩ := Wording.isText_iff_exists.mp (encodable line member)
    simp
  · rintro ⟨texts, rfl⟩ line member
    obtain ⟨text, -, rfl⟩ := List.mem_map.mp member
    exact Wording.isText_ofChars text

/-- What comes back from the file of a record are the lines written, unless one of them has a line
boundary in it. -/
theorem decode_bytes_iff {lines : List Wording} (encodable : Encodable lines) :
    ∃ back, decode (bytes lines) = .ok back ∧
      (back = lines ↔ ∀ line ∈ lines, ∀ c, .char c ∈ line → Text.isLineBoundary c = false) := by
  obtain ⟨texts, rfl⟩ := encodable_iff_exists.mp encodable
  refine ⟨_, by rw [decode, bytes_ofChars, Text.Utf8.decode_encode]; rfl, ?_, fun whole => ?_⟩
  · -- The lines that come back are cut at every boundary, so they have none in them.
    intro same line member c inside
    rw [← same] at member
    obtain ⟨split, among, rfl⟩ := List.mem_map.mp member
    exact Text.splitLines_whole among c (Wording.char_mem_ofChars.mp inside)
  · have split : Text.splitLines (Text.universalNewlines (Text.terminated '\n' texts)) = texts :=
      Text.splitLines_terminated fun line member c inside =>
        whole _ (List.mem_map_of_mem member) c (Wording.char_mem_ofChars.mpr inside)
    exact congrArg (List.map Wording.ofChars) split

/-- The lines of a record come back from its file, as long as none has a line boundary in it. -/
theorem decode_bytes {lines : List Wording} (encodable : Encodable lines)
    (whole : ∀ line ∈ lines, ∀ c, .char c ∈ line → Text.isLineBoundary c = false) :
    decode (bytes lines) = .ok lines := by
  obtain ⟨back, decoded, same⟩ := decode_bytes_iff encodable
  rw [decoded, same.mpr whole]

/-- Whatever the lines are, the bytes of a record are those of some text. -/
theorem decode_bytes_isOk (lines : List Wording) :
    ∃ s, Text.Utf8.decode (bytes lines) = .ok s := by
  by_cases encodable : Encodable lines
  · obtain ⟨texts, rfl⟩ := encodable_iff_exists.mp encodable
    exact ⟨_, by rw [bytes_ofChars, Text.Utf8.decode_encode]⟩
  · obtain ⟨fault, refused⟩ := encode_eq_error_iff.mpr encodable
    exact ⟨[], by rw [bytes_of_error refused]; rfl⟩

end Record

/-! ## How a write goes -/

namespace Disk

theorem part_of_stops {disk : Disk} {place : Location} {bytes : List UInt8}
    (taken : disk.stops place bytes = none) : disk.part place bytes = bytes := by
  unfold stops at taken
  unfold part
  cases held : disk.room place with
  | none => rfl
  | some left =>
    obtain ⟨room, shortage⟩ := left
    have enough : bytes.length ≤ room := by simpa [held] using taken
    exact List.take_of_length_le enough

/-- The disk takes a beginning of what is written. -/
theorem part_prefix (disk : Disk) (place : Location) (bytes : List UInt8) :
    disk.part place bytes <+: bytes := by
  unfold part
  split
  · exact List.prefix_refl _
  · exact List.take_prefix _ _

@[simp] theorem stops_nil (disk : Disk) (place : Location) : disk.stops place [] = none := by
  unfold stops
  split <;> simp

@[simp] theorem stops_ample (place : Location) (bytes : List UInt8) :
    ample.stops place bytes = none := rfl

end Disk

theorem Persisted.stopped_files (code : ErrorCode) (verb : String) (target subject : Path)
    (fault : WriteFault) (files : FileSystem) :
    (Persisted.stopped code verb target subject fault files).files = files := by
  unfold stopped
  split <;> rfl

theorem Persisted.stopped_answer {code : ErrorCode} {verb : String} {target subject : Path}
    {fault : WriteFault} {files : FileSystem} (looked : fault ≠ .refused .embeddedNull) :
    (Persisted.stopped code verb target subject fault files).answer =
      .ok ⟨target, some (.ofFile code subject fault)⟩ := by
  unfold stopped
  split
  · exact absurd rfl looked
  · rfl

theorem Persisted.stopped_answer_ne (code : ErrorCode) (verb : String) (target subject : Path)
    (fault : WriteFault) (files : FileSystem) (path : Path) :
    (Persisted.stopped code verb target subject fault files).answer ≠ .ok ⟨path, none⟩ := by
  unfold stopped
  split <;> simp

/-- The ways that an attempt to write a record may go. Once the file is open, it holds what the disk
takes of the bytes of the lines; lines without bytes leave it empty. -/
inductive Goes (disk : Disk) (files : FileSystem) (file : Path) (root : RequestRoot)
    (lines : List Wording) : Effect (Except Failure Persisted) → Prop
  | unmade {e : FileError} {grown : FileSystem} :
      files.makeDirectories disk (recordPath file root).parent = (some e, grown) →
      Goes disk files file root lines
        (Persisted.stopped .trackingDirectoryFailed "create" (recordPath file root)
          (recordPath file root).parent (.refused e) grown)
  | unopened {e : FileError} {grown : FileSystem} :
      files.makeDirectories disk (recordPath file root).parent = (none, grown) →
      grown.openPlace disk (recordPath file root) = .error e →
      Goes disk files file root lines
        (Persisted.stopped .trackingWriteFailed "write" (recordPath file root)
          (recordPath file root) (.refused e) grown)
  | stopped {grown : FileSystem} {place : Location} {shortage : Shortage} :
      files.makeDirectories disk (recordPath file root).parent = (none, grown) →
      grown.openPlace disk (recordPath file root) = .ok place →
      disk.stops place (Record.bytes lines) = some shortage →
      Goes disk files file root lines
        (Persisted.stopped .trackingWriteFailed "write" (recordPath file root)
          (recordPath file root) (.stopped shortage)
          (grown.set place (.file (disk.part place (Record.bytes lines)))))
  | unencodable {grown : FileSystem} {place : Location} {fault : Text.EncodeFault} :
      files.makeDirectories disk (recordPath file root).parent = (none, grown) →
      grown.openPlace disk (recordPath file root) = .ok place →
      Record.encode lines = .error fault →
      Goes disk files file root lines
        ⟨.error (.unencodable fault), grown.set place (.file []), []⟩
  | written {grown : FileSystem} {place : Location} :
      files.makeDirectories disk (recordPath file root).parent = (none, grown) →
      grown.openPlace disk (recordPath file root) = .ok place →
      disk.stops place (Record.bytes lines) = none → Record.Encodable lines →
      Goes disk files file root lines
        ⟨.ok ⟨recordPath file root, none⟩, grown.set place (.file (Record.bytes lines)), []⟩

theorem persist_goes (disk : Disk) (files : FileSystem) (file : Path) (root : RequestRoot)
    (lines : List Wording) :
    Goes disk files file root lines (persist disk files file root lines) := by
  unfold persist FileSystem.write
  dsimp only
  rcases made : files.makeDirectories disk (recordPath file root).parent with ⟨_ | e, grown⟩
  · dsimp only
    cases opened : grown.openPlace disk (recordPath file root) with
    | error e => exact .unopened made opened
    | ok place =>
      dsimp only
      cases stops : disk.stops place (Record.bytes lines) with
      | some shortage => exact .stopped made opened stops
      | none =>
        rw [Option.map_none, Disk.part_of_stops stops]
        dsimp only
        cases encoded : Record.encode lines with
        | error fault =>
          rw [Record.bytes_of_error encoded]
          exact .unencodable made opened encoded
        | ok bytes => exact .written made opened stops (Record.encode_eq_ok_iff.mp encoded).1
  · exact .unmade made

/-- A disk with room for entries still, but for no bytes. -/
def Disk.full : Disk := ⟨fun _ => none, fun _ => some (0, .space)⟩

variable {disk : Disk} {files : FileSystem} {file path : Path} {root : RequestRoot}
  {lines : List Wording}

/-- An attempt to write a record leaves the files as making the directory left them, or, where the
file is opened, what the disk takes in its place. -/
theorem Goes.leaves {effect : Effect (Except Failure Persisted)}
    (goes : Goes disk files file root lines effect) :
    effect.files = (files.makeDirectories disk (recordPath file root).parent).2 ∨
      ∃ grown place, files.makeDirectories disk (recordPath file root).parent = (none, grown) ∧
        grown.openPlace disk (recordPath file root) = .ok place ∧
        effect.files = grown.set place (.file (disk.part place (Record.bytes lines))) := by
  cases goes with
  | unmade made | unopened made => exact .inl (by rw [Persisted.stopped_files, made])
  | stopped made opened => exact .inr ⟨_, _, made, opened, Persisted.stopped_files _ _ _ _ _ _⟩
  | @unencodable grown place fault made opened refused =>
    have nothing : disk.part place (Record.bytes lines) = [] := by
      rw [Record.bytes_of_error refused, Disk.part_of_stops (Disk.stops_nil disk place)]
    exact .inr ⟨grown, place, made, opened, by rw [nothing]⟩
  | @written grown place made opened stops =>
    exact .inr ⟨grown, place, made, opened, by rw [Disk.part_of_stops stops]⟩

/-- A write of a record that goes well makes the directories above it, opens the file, and leaves
all of the bytes in it. -/
theorem persist_of_well (well : (persist disk files file root lines).answer = .ok ⟨path, none⟩) :
    ∃ grown place, files.makeDirectories disk (recordPath file root).parent = (none, grown) ∧
      grown.openPlace disk (recordPath file root) = .ok place ∧
      persist disk files file root lines =
        ⟨.ok ⟨recordPath file root, none⟩, grown.set place (.file (Record.bytes lines)), []⟩ ∧
      Record.Encodable lines := by
  have goes := persist_goes disk files file root lines
  generalize persist disk files file root lines = effect at goes well
  cases goes with
  | unmade | unopened | stopped => exact absurd well (Persisted.stopped_answer_ne _ _ _ _ _ _ _)
  | unencodable => cases well
  | written made opened stops encodable => exact ⟨_, _, made, opened, rfl, encodable⟩

/-- A write of a record that goes well makes the directories above it, and then sets one entry. -/
theorem persist_steps
    (follows : (files.makeDirectories disk (recordPath file root).parent).2.FollowsLinks)
    (well : (persist disk files file root lines).answer = .ok ⟨path, none⟩) :
    ∃ grown place, files.makeDirectories disk (recordPath file root).parent = (none, grown) ∧
      (persist disk files file root lines).files = grown.set place (.file (Record.bytes lines)) ∧
      Record.Encodable lines ∧ grown.lookup place ≠ some .directory ∧
      grown.Extends (grown.set place (.file (Record.bytes lines))) ∧
      (grown.set place (.file (Record.bytes lines))).locate true (recordPath file root) =
        .ok (.found place (.file (Record.bytes lines))) := by
  obtain ⟨grown, place, made, opened, done, encodable⟩ := persist_of_well well
  rw [made] at follows
  obtain ⟨room, kept, located⟩ := FileSystem.openPlace_eq follows opened (Record.bytes lines)
  exact ⟨grown, place, made, by rw [done], encodable, room, kept, located⟩

/-- Where the directory of a file is there at the end of a clear path, it need not be made, and the
file is opened in it. -/
theorem FileSystem.Clear.opens {fs : FileSystem} {p : Path} (clear : fs.Clear p.parent)
    (tree : fs.IsTree) (linkFree : fs.NoLinks) {last : String}
    (whole : p.parts = p.parent.parts ++ [last]) (proper : IsName last)
    (noNull : '\x00' ∉ p.text.toList) (short : p.text.utf8ByteSize ≤ maxPath)
    (there : fs.lookup p.parent.parts = some .directory)
    (room : fs.lookup p.parts ≠ some .directory)
    (unbarred : fs.lookup p.parts = none → disk.bars p.parts = none) :
    fs.makeDirectories disk p.parent = (none, fs) ∧ fs.openPlace disk p = .ok p.parts := by
  have begins : fs.start p.parent = [] := if_pos clear.absolute
  have found := tree.locate_of_lookup linkFree clear.noNull clear.short
    (by rw [begins]; exact there) true
  exact ⟨makeDirectories_of_directory (isDirectory_eq_true_iff.mpr ⟨_, found⟩),
    clear.openPlace tree linkFree whole proper noNull short there room unbarred⟩

/-- A record is written at the place that its path is opened at, where its directory is there, if
its lines have bytes and the disk takes them. -/
theorem persist_of_directory (lines : List Wording) {place : Location}
    (encodable : Record.Encodable lines)
    (taken : disk.stops place (Record.bytes lines) = none)
    (there : files.isDirectory (recordPath file root).parent = .ok true)
    (opened : files.openPlace disk (recordPath file root) = .ok place) :
    persist disk files file root lines =
      ⟨.ok ⟨recordPath file root, none⟩, files.set place (.file (Record.bytes lines)), []⟩ := by
  simp only [persist, FileSystem.makeDirectories_of_directory there, FileSystem.write, opened,
    taken, Disk.part_of_stops taken, Option.map_none, Record.encode_eq_ok_iff.mpr ⟨encodable, rfl⟩]

/-- A write of a record keeps a tree. -/
theorem isTree_persist (tree : files.IsTree) (disk : Disk) (file : Path) (root : RequestRoot)
    (lines : List Wording) : (persist disk files file root lines).files.IsTree := by
  have parents := tree.makeDirectories disk (recordPath file root).parent
  unfold persist
  dsimp only
  split
  · rename_i e grown made
    rw [made] at parents
    rw [Persisted.stopped_files]
    exact parents
  · rename_i grown made
    rw [made] at parents
    have written := parents.write disk (recordPath file root) (Record.bytes lines)
    split
    · rename_i fault left refused
      rw [refused] at written
      rw [Persisted.stopped_files]
      exact written
    · rename_i left done
      rw [done] at written
      split <;> exact written

/-- A record is written where nothing stands in the way, on a disk with room for it. -/
theorem persist_succeeds (tree : files.IsTree) (linkFree : files.NoLinks)
    (encodable : Record.Encodable lines) (clear : files.Clear (recordPath file root).parent)
    {last : String}
    (whole : (recordPath file root).parts = (recordPath file root).parent.parts ++ [last])
    (proper : FileSystem.IsName last) (noNull : '\x00' ∉ (recordPath file root).text.toList)
    (short : (recordPath file root).text.utf8ByteSize ≤ FileSystem.maxPath)
    (room : files.lookup (recordPath file root).parts ≠ some .directory) :
    (persist .ample files file root lines).answer = .ok ⟨recordPath file root, none⟩ := by
  have unbarred (place : Location) : Disk.ample.bars place = none := rfl
  have made := clear.makeDirectories tree linkFree unbarred
  have grown :=
    FileSystem.makeDirectories_grows_spelled .ample linkFree (recordPath file root).parent
  obtain ⟨place, there⟩ := FileSystem.locate_of_makeDirectories made
  cases parents : files.makeDirectories .ample (recordPath file root).parent with
  | mk e after =>
    simp only [parents] at made grown there
    have later := clear.grows grown
    have noLinks := grown.noLinks linkFree
    have same : place = (recordPath file root).parent.parts := later.place_eq noLinks there
    obtain ⟨_, _, leads⟩ := FileSystem.locate_eq_ok_iff.mp there
    have held := leads.lookup_found
    rw [same] at held
    have free : after.lookup (recordPath file root).parts ≠ some .directory := by
      rcases grown.lookup (recordPath file root).parts with old | ⟨_, _, spelled, _⟩
      · rwa [old]
      · have shorter := (clear.spelled spelled).length_le
        rw [whole, List.length_append, List.length_singleton] at shorter
        omega
    have opened := later.openPlace (grown.isTree tree) noLinks whole proper noNull short held free
      fun _ => unbarred _
    simp only [persist, parents, made, FileSystem.write, opened, Disk.stops_ample, Option.map_none,
      Record.encode_eq_ok_iff.mpr ⟨encodable, rfl⟩]

/-! ## How a write ends -/

/-- How a write of a record ends: well, or with a refusal to make the tracking directory or to open
the file, or where the disk takes no more, or because the lines have no bytes. Nothing is tried if
the path of the record has a NUL in it. -/
inductive Ended (target : Path) (lines : List Wording) : Except Failure Persisted → Prop
  | well : Record.Encodable lines → Ended target lines (.ok ⟨target, none⟩)
  | noDirectory (fault : Fault) (path : Path) :
      Ended target lines (.ok ⟨target,
        some (.ofFile .trackingDirectoryFailed target.parent (.refused (.refused fault path)))⟩)
  | notWritten (fault : WriteFault) : fault ≠ .refused .embeddedNull →
      Ended target lines (.ok ⟨target, some (.ofFile .trackingWriteFailed target fault)⟩)
  | unencodable (fault : Text.EncodeFault) : Record.encode lines = .error fault →
      Ended target lines (.error (.unencodable fault))
  | null : '\x00' ∈ target.text.toList → Ended target lines (.error (.file .embeddedNull))

theorem persist_ended (disk : Disk) (files : FileSystem) (file : Path) (root : RequestRoot)
    (lines : List Wording) :
    Ended (recordPath file root) lines (persist disk files file root lines).answer := by
  have goes := persist_goes disk files file root lines
  generalize persist disk files file root lines = effect at goes
  cases goes with
  | @unmade e grown made =>
    cases e with
    | embeddedNull =>
      have null := FileSystem.makeDirectories_null_iff disk files (recordPath file root).parent
      exact .null (FileSystem.null_of_parent (null.mp (by rw [made])))
    | refused fault path => exact .noDirectory fault path
  | @unopened e grown made refused =>
    cases e with
    | embeddedNull => exact .null ((FileSystem.openPlace_null_iff disk grown _).mp refused)
    | refused fault path => exact .notWritten _ (by simp)
  | stopped => exact .notWritten _ (by simp)
  | unencodable made opened refused => exact .unencodable _ refused
  | written made opened stops encodable => exact .well encodable

/-- A NUL in the path of the tracking directory is refused before a directory is made. -/
theorem persist_null (disk : Disk) (files : FileSystem) (lines : List Wording)
    (null : '\x00' ∈ (recordPath file root).parent.text.toList) :
    (persist disk files file root lines).answer = .error (.file .embeddedNull) := by
  have refused := (FileSystem.makeDirectories_null_iff disk files _).mpr null
  unfold persist
  dsimp only
  generalize files.makeDirectories disk (recordPath file root).parent = made at refused ⊢
  obtain ⟨outcome, grown⟩ := made
  cases refused
  rfl

/-- No NUL comes into the path of a record but from the file or the root. -/
theorem recordPath_noNull {file : Path} {root : RequestRoot} (above : '\x00' ∉ file.text.toList)
    (named : '\x00' ∉ root.text.toList) : '\x00' ∉ (recordPath file root).text.toList := by
  have exchanged : '\x00' ∉ root.fileName.toList := by
    intro null
    simp only [RequestRoot.fileName, Text.exchange, String.toList_ofList] at null
    obtain ⟨c, inside, same⟩ := List.mem_map.mp null
    split at same
    · cases same
    · exact named (same ▸ inside)
  have name : ∀ part ∈ (Path.ofText root.fileName).parts, '\x00' ∉ part.toList := by
    intro part member null
    exact exchanged (Text.mem_of_mem_fieldsOf (Path.mem_ofText_iff.mp member).1 null)
  have beside : ∀ part ∈ (trackingBeside file).parts, '\x00' ∉ part.toList := by
    intro part member null
    rw [Path.mem_text_iff (by decide) (by decide)] at above
    rw [trackingBeside, Path.child_part _ (by decide)] at member
    rcases List.mem_append.mp member with outer | tracking
    · exact above ⟨part, (List.dropLast_prefix _).subset outer, null⟩
    · rw [List.mem_singleton.mp tracking] at null
      revert null
      decide
  rw [Path.mem_text_iff (by decide) (by decide)]
  intro ⟨part, member, null⟩
  unfold recordPath Path.child Path.join at member
  split at member
  · rcases List.mem_append.mp member with outer | inner
    · exact beside part outer null
    · exact name part inner null
  · exact name part member null

end Provenance
