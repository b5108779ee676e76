import Provenance.Proofs.FileSystem.Directory
import Provenance.Proofs.FileSystem.Overwrite

/-!
The records of a directory, whatever its entries are. An entry holds a record if it leads to a file
that is text (`recordIn_eq_some_iff`), and otherwise it holds none, or it is no text, or it lies too
deep to ask about (`recordIn_refused`). A reading that succeeds lists exactly the records that the
entries hold, by increasing names (`mem_readRecords_iff`, `readRecords_increasing`); it fails only
as one of the entries does (`readRecords_cases`).
-/
namespace Provenance

open FileSystem

/-! ## One entry -/

/-- An entry holds a record if it leads to a file the bytes of which are text. -/
theorem recordIn_eq_some_iff {fs : FileSystem} {directory : Path} {name : String}
    {record : Record} :
    recordIn fs directory name = .ok (some record) ↔ record.rootKey = name ∧
      ∃ place bytes, fs.locate true (directory.entry name) = .ok (.found place (.file bytes)) ∧
        Record.decode bytes = .ok record.lines := by
  constructor
  · intro read
    obtain ⟨isFile, asked, read⟩ := bind_eq_ok_iff.mp read
    cases isFile with
    | false => cases read
    | true =>
      obtain ⟨bytes, held, read⟩ := bind_eq_ok_iff.mp read
      obtain ⟨lines, decoded, whole⟩ := bind_eq_ok_iff.mp read
      cases whole
      obtain ⟨place, located⟩ := read_eq_ok_iff.mp (mapError_eq_ok_iff.mp held)
      exact ⟨rfl, place, bytes, located, mapError_eq_ok_iff.mp decoded⟩
  · rintro ⟨rfl, place, bytes, located, decoded⟩
    have isFile := isFile_eq_true_iff.mpr ⟨place, bytes, located⟩
    have held := read_eq_ok_iff.mpr ⟨place, located⟩
    simp [recordIn, isFile, held, decoded, Except.mapError, bind, Except.bind, pure, Except.pure]

/-- The record of an entry that leads to a file of text. -/
theorem recordIn_of_text {fs : FileSystem} {directory : Path} {name : String} {place : Location}
    {bytes : List UInt8} {back : List Wording}
    (located : fs.locate true (directory.entry name) = .ok (.found place (.file bytes)))
    (decoded : Record.decode bytes = .ok back) :
    recordIn fs directory name = .ok (some ⟨name, back⟩) :=
  recordIn_eq_some_iff.mpr ⟨rfl, place, bytes, located, decoded⟩

/-- Where an entry cannot be read, it is no text, or there is no asking about it. -/
theorem recordIn_refused {fs : FileSystem} {directory : Path} {name : String} {failure : Failure}
    (refused : recordIn fs directory name = .error failure) :
    (failure = .file (.refused .nameTooLong (directory.entry name)) ∧
        fs.isFile (directory.entry name) =
          .error (.refused .nameTooLong (directory.entry name))) ∨
      ∃ bytes fault, failure = .undecodable fault ∧ fs.read (directory.entry name) = .ok bytes ∧
        Text.Utf8.decode bytes = .error fault := by
  rcases bind_eq_error_iff.mp refused with unasked | ⟨isFile, asked, unread⟩
  · left
    obtain ⟨e, isFile, rfl⟩ := mapError_eq_error_iff.mp unasked
    obtain ⟨rfl, -⟩ := isFile_eq_error_iff.mp isFile
    exact ⟨rfl, isFile⟩
  · right
    cases isFile with
    | false => cases unread
    | true =>
      obtain ⟨place, bytes, located⟩ := isFile_eq_true_iff.mp (mapError_eq_ok_iff.mp asked)
      have held := read_eq_ok_iff.mpr ⟨place, located⟩
      rcases decoded : Text.Utf8.decode bytes with fault | s
      · refine ⟨bytes, fault, ?_, held, decoded⟩
        simpa [held, Record.decode, decoded, Except.mapError, Except.map, bind, Except.bind]
          using unread.symm
      · simp [held, Record.decode, decoded, Except.mapError, Except.map, bind, Except.bind, pure,
          Except.pure] at unread

/-- An entry that leads to a file which is no text cannot be read. -/
theorem recordIn_of_fault {fs : FileSystem} {directory : Path} {name : String}
    {bytes : List UInt8} (held : fs.read (directory.entry name) = .ok bytes)
    {fault : Text.Utf8.Fault} (undecodable : Text.Utf8.decode bytes = .error fault) :
    recordIn fs directory name = .error (.undecodable fault) := by
  obtain ⟨place, located⟩ := read_eq_ok_iff.mp held
  have isFile := isFile_eq_true_iff.mpr ⟨place, bytes, located⟩
  simp [recordIn, isFile, held, Record.decode, undecodable, Except.mapError, Except.map, bind,
    Except.bind]

/-- An entry of a directory that leads to a file is listed there. -/
theorem FileSystem.IsTree.entry_of_locate {fs : FileSystem} (tree : fs.IsTree) {directory : Path}
    (written : directory.isAbsolute = true ∨ directory.parts ≠ []) {name : String}
    {place : Location} {bytes : List UInt8}
    (located : fs.locate true (directory.entry name) = .ok (.found place (.file bytes))) :
    ∃ here old, fs.locate true directory = .ok (.found here .directory) ∧
      fs.lookup (here ++ [name]) = some old ∧ old ≠ .directory := by
  obtain ⟨here, there⟩ := locate_above written (List.cons_ne_nil name []) located
  obtain ⟨_, _, leads⟩ := locate_eq_ok_iff.mp there
  obtain ⟨_, _, further⟩ := locate_eq_ok_iff.mp located
  obtain ⟨left, goes⟩ := leads.onward
  have whole : (directory.entry name).parts = directory.parts ++ [name] := rfl
  have begins : fs.start (directory.entry name) = fs.start directory := rfl
  have onward := further.walk_eq
  rw [whole, begins, goes [name] (by simp)] at onward
  have held := leads.lookup_found
  cases leads_of_walk onward with
  | idle _ _ stays =>
    cases stays with
    | stay file => simp [held] at file
  | up _ stays =>
    -- What lies above an entry of a tree is a directory.
    cases stays with
    | stay file =>
      rcases List.eq_nil_or_concat here with rfl | ⟨above, last, rfl⟩
      · simp at file
      · rw [List.concat_eq_append] at held file
        rw [List.dropLast_concat, tree.parents above last _ held] at file
        cases file
  | through _ _ link => exact ⟨here, _, there, link, by simp⟩
  | down _ _ found _ stays =>
    cases stays with
    | stay file =>
      rw [found] at file
      cases file
      exact ⟨here, _, there, found, by simp⟩

/-! ## All entries -/

theorem readRecords_of_refused {fs : FileSystem} {directory : Path} {e : FileError}
    (refused : fs.directory? directory = .error e) :
    readRecords fs directory = .error (.file e) := by
  simp [readRecords, refused, Except.mapError, bind, Except.bind]

theorem readRecords_of_none {fs : FileSystem} {directory : Path}
    (missing : fs.directory? directory = .ok none) :
    readRecords fs directory = .ok [] := by
  simp [readRecords, missing, Except.mapError, bind, Except.bind, pure, Except.pure]

theorem readRecords_of_some {fs : FileSystem} {directory : Path} {here : Location}
    (there : fs.directory? directory = .ok (some here)) :
    readRecords fs directory =
      ((fs.names here).mapM (recordIn fs directory)).map List.reduceOption := by
  simp only [readRecords, there, Except.mapError, bind, Except.bind, pure, Except.pure]
  cases (fs.names here).mapM (recordIn fs directory) <;> rfl

/-- A directory is read, or the reading fails as one of its entries does. -/
theorem readRecords_cases {fs : FileSystem} {directory : Path} {here : Location}
    (there : fs.locate true directory = .ok (.found here .directory)) :
    (∃ name ∈ fs.names here, ∃ failure, recordIn fs directory name = .error failure ∧
        readRecords fs directory = .error failure) ∨
      readRecords fs directory = .ok ((fs.names here).filterMap fun name =>
        (recordIn fs directory name).toOption.join) := by
  have found := directory?_eq_some_iff.mpr there
  rcases mapM_reduceOption_cases (recordIn fs directory) (fs.names here) with
    ⟨name, member, failure, failed, whole⟩ | ⟨_, answers, whole, reduced⟩
  · refine .inl ⟨name, member, failure, failed, ?_⟩
    rw [readRecords_of_some found, whole]
    rfl
  · refine .inr ?_
    rw [readRecords_of_some found, whole, Except.map, reduced]

/-- What was read came from the entries of a directory, unless there is no directory. -/
theorem readRecords_eq_ok {fs : FileSystem} {directory : Path} {records : List Record}
    (read : readRecords fs directory = .ok records) :
    (records = [] ∧ ∀ here, fs.locate true directory ≠ .ok (.found here .directory)) ∨
      ∃ here, fs.locate true directory = .ok (.found here .directory) ∧
        records = (fs.names here).filterMap fun name =>
          (recordIn fs directory name).toOption.join := by
  cases asked : fs.directory? directory with
  | error e =>
    rw [readRecords_of_refused asked] at read
    cases read
  | ok found =>
    cases found with
    | none =>
      refine .inl ⟨?_, fun here there => ?_⟩
      · rw [readRecords_of_none asked] at read
        exact (Except.ok.inj read).symm
      · rw [directory?_eq_some_iff.mpr there] at asked
        cases asked
    | some here =>
      have there := directory?_eq_some_iff.mp asked
      rcases readRecords_cases there with ⟨_, _, _, _, failed⟩ | whole
      · rw [failed] at read
        cases read
      · exact .inr ⟨here, there, Except.ok.inj (read.symm.trans whole)⟩

/-- Where all files are texts, a directory is read, unless there is no asking about an entry. -/
theorem readRecords_of_texts {fs : FileSystem} {directory : Path} {here : Location}
    (there : fs.locate true directory = .ok (.found here .directory))
    (texts : ∀ name bytes, fs.read (directory.entry name) = .ok bytes →
      ∃ s, Text.Utf8.decode bytes = .ok s) :
    (∃ name ∈ fs.names here, readRecords fs directory =
          .error (.file (.refused .nameTooLong (directory.entry name))) ∧
        fs.isFile (directory.entry name) =
          .error (.refused .nameTooLong (directory.entry name))) ∨
      ∃ records, readRecords fs directory = .ok records := by
  rcases readRecords_cases there with ⟨name, member, failure, failed, whole⟩ | whole
  · rcases recordIn_refused failed with ⟨rfl, deep⟩ | ⟨bytes, fault, -, held, undecodable⟩
    · exact .inl ⟨name, member, whole, deep⟩
    · obtain ⟨s, text⟩ := texts name bytes held
      rw [text] at undecodable
      cases undecodable
  · exact .inr ⟨_, whole⟩

/-- A directory is not read if one of its entries cannot be read, whatever the others are. -/
theorem readRecords_ne_ok_of_entry {fs : FileSystem} {directory : Path} {here : Location}
    (there : fs.directory? directory = .ok (some here)) {name : String}
    (listed : name ∈ fs.names here) {failure : Failure}
    (failed : recordIn fs directory name = .error failure) (records : List Record) :
    readRecords fs directory ≠ .ok records := by
  intro read
  rw [readRecords_of_some there] at read
  rcases whole : (fs.names here).mapM (recordIn fs directory) with e | answers
  · rw [whole] at read
    cases read
  · obtain ⟨answer, answered⟩ := answered_of_mapM whole listed
    cases failed.symm.trans answered

/-- A directory is not read in which some file is no text. -/
theorem readRecords_ne_ok_of_fault {fs : FileSystem} {directory : Path} {here : Location}
    (there : fs.directory? directory = .ok (some here)) {name : String}
    (listed : name ∈ fs.names here) {bytes : List UInt8}
    (held : fs.read (directory.entry name) = .ok bytes) {fault : Text.Utf8.Fault}
    (undecodable : Text.Utf8.decode bytes = .error fault) (records : List Record) :
    readRecords fs directory ≠ .ok records :=
  readRecords_ne_ok_of_entry there listed (recordIn_of_fault held undecodable) records

/-- The records of a directory are the ones that its entries hold. -/
theorem mem_readRecords_iff {fs : FileSystem} (tree : fs.IsTree) {directory : Path}
    (written : directory.isAbsolute = true ∨ directory.parts ≠ []) {records : List Record}
    (read : readRecords fs directory = .ok records) {record : Record} :
    record ∈ records ↔ recordIn fs directory record.rootKey = .ok (some record) := by
  constructor
  · intro member
    rcases readRecords_eq_ok read with ⟨rfl, -⟩ | ⟨here, -, rfl⟩
    · cases member
    · obtain ⟨name, -, kept⟩ := List.mem_filterMap.mp member
      have held := toOption_join_eq_some_iff.mp kept
      obtain ⟨rfl, -⟩ := recordIn_eq_some_iff.mp held
      exact held
  · intro held
    obtain ⟨-, place, bytes, located, -⟩ := recordIn_eq_some_iff.mp held
    obtain ⟨here, old, there, present, -⟩ := tree.entry_of_locate written located
    rcases readRecords_eq_ok read with ⟨-, missing⟩ | ⟨other, again, rfl⟩
    · exact absurd there (missing here)
    · obtain rfl : here = other := by
        rw [there] at again
        cases again
        rfl
      refine List.mem_filterMap.mpr ⟨record.rootKey, mem_names.mpr ⟨old, present⟩, ?_⟩
      exact toOption_join_eq_some_iff.mpr held

/-- The records of a directory have increasing names. -/
theorem readRecords_increasing {fs : FileSystem} (unique : fs.Unique) {directory : Path}
    {records : List Record} (read : readRecords fs directory = .ok records) :
    records.Pairwise (·.rootKey < ·.rootKey) := by
  rcases readRecords_eq_ok read with ⟨rfl, -⟩ | ⟨here, -, rfl⟩
  · exact .nil
  · refine (unique.names_increasing here).filterMap _
      fun name other below record held later again => ?_
    obtain ⟨rfl, -⟩ := recordIn_eq_some_iff.mp (toOption_join_eq_some_iff.mp held)
    obtain ⟨rfl, -⟩ := recordIn_eq_some_iff.mp (toOption_join_eq_some_iff.mp again)
    exact below

end Provenance
