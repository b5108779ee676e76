import Mathlib.Data.List.TakeWhile
import Provenance.Proofs.Tracking.Reading
import Provenance.Proofs.Tracking.Search
import Provenance.Proofs.Text.Wording

/-!
What reading a directory answers, whatever it contains. An entry hinders the reading if it leads to
a file whose bytes are those of no text, or if there is no asking about it; the reading fails with
the first of these entries and for no other reason below the directory (`readRecords_eq_error_iff`).
If no entry hinders it, it gives one record for each entry that leads to a file, and passes over all
other entries (`readRecords_by_entries`). Whatever a file contains, its lines are whole, and an
entry of a record tells its line (`entryOf_tellsLine`).
-/
namespace Provenance

/-! ## Lines -/

/-- A level and a text tell a line: the text does not begin with a space, and the line is the text
behind two spaces for each level, or behind one space more. -/
def TellsLine (entry : Nat × Wording) (line : Wording) : Prop :=
  entry.2.head? ≠ some (.char ' ') ∧
    (line = List.replicate (2 * entry.1) (.char ' ') ++ entry.2 ∨
      line = List.replicate (2 * entry.1 + 1) (.char ' ') ++ entry.2)

theorem entryOf_tellsLine (line : Wording) : TellsLine (entryOf line) line := by
  have spaces : line.takeWhile (· == .char ' ') =
      List.replicate (line.takeWhile (· == .char ' ')).length (.char ' ') := by
    refine List.eq_replicate_iff.mpr ⟨rfl, fun mark member => ?_⟩
    simpa using List.mem_takeWhile_imp member
  have whole : line = List.replicate (line.takeWhile (· == .char ' ')).length (.char ' ') ++
      line.dropWhile (· == .char ' ') := by
    rw [← spaces, List.takeWhile_append_dropWhile]
  have halves := Nat.div_add_mod (line.takeWhile (· == .char ' ')).length 2
  simp only [TellsLine, entryOf, indentWidth]
  constructor
  · intro space
    have stopped := List.head?_dropWhile_not (· == .char ' ') line
    rw [space] at stopped
    simp at stopped
  · rcases Nat.mod_two_eq_zero_or_one (line.takeWhile (· == .char ' ')).length with even | odd
    · left
      rw [even, Nat.add_zero] at halves
      rwa [halves]
    · right
      rw [odd] at halves
      rwa [halves]

/-- The lines in the bytes of a text. -/
theorem Record.decode_eq_ok_iff {bytes : List UInt8} {lines : List Wording} :
    Record.decode bytes = .ok lines ↔ ∃ s, bytes = Text.Utf8.encode s ∧
      lines = (Text.splitLines (Text.universalNewlines s)).map Wording.ofChars := by
  unfold Record.decode
  cases decoded : Text.Utf8.decode bytes with
  | error fault =>
    simp [Except.map, Text.Utf8.ne_encode_of_decode decoded]
  | ok s =>
    obtain rfl := Text.Utf8.decode_eq_ok_iff.mp decoded
    constructor
    · intro read
      exact ⟨s, rfl, (Except.ok.inj read).symm⟩
    · rintro ⟨t, same, rfl⟩
      rw [Text.Utf8.encode_injective same]
      rfl

/-! ## Entries -/

namespace FileSystem

/-- The path leads to a directory in which there is an entry of the name. -/
def HasEntry (fs : FileSystem) (directory : Path) (name : String) : Prop :=
  ∃ here entry, fs.locate true directory = .ok (.found here .directory) ∧
    fs.lookup (here ++ [name]) = some entry

/-- The path leads to a regular file with these bytes. -/
def FileAt (fs : FileSystem) (p : Path) (bytes : List UInt8) : Prop :=
  ∃ place, fs.locate true p = .ok (.found place (.file bytes))

/-- The entry keeps its directory from being read: it leads to a file whose bytes are those of no
text, or there is no asking about it. -/
inductive Hinders (fs : FileSystem) (directory : Path) (name : String) : Failure → Prop
  | undecodable {bytes : List UInt8} {fault : Text.Utf8.Fault}
      (file : fs.FileAt (directory.entry name) bytes) (noText : ∀ s, bytes ≠ Text.Utf8.encode s)
      (told : Text.Utf8.decode bytes = .error fault) :
      Hinders fs directory name (.undecodable fault)
  | refused (refuses : fs.Refuses (directory.entry name)) :
      Hinders fs directory name (.file (.refused .nameTooLong (directory.entry name)))

/-- The failure is that of an entry which hinders the reading of its directory, and no entry before
it by name does. -/
def FirstHinders (fs : FileSystem) (directory : Path) (failure : Failure) : Prop :=
  ∃ name, fs.HasEntry directory name ∧ fs.Hinders directory name failure ∧
    ∀ earlier, fs.HasEntry directory earlier → earlier < name →
      ∀ other, ¬fs.Hinders directory earlier other

variable {fs : FileSystem} {directory : Path} {here : Location} {name : String}

/-- There is asking about a path that leads to an entry. -/
theorem not_refuses_of_located {p : Path} {place : Location} {entry : Entry}
    (located : fs.locate true p = .ok (.found place entry)) : ¬fs.Refuses p := by
  intro refuses
  cases (inspect_eq_some_iff.mpr located).symm.trans (inspect_eq_error_iff.mpr ⟨rfl, refuses⟩)

/-- What leads to something else than a file, or to a text, does not hinder the reading. -/
theorem not_hinders_of_located {place : Location} {entry : Entry}
    (located : fs.locate true (directory.entry name) = .ok (.found place entry))
    (text : ∀ bytes, entry = .file bytes → ∃ s, bytes = Text.Utf8.encode s) (failure : Failure) :
    ¬fs.Hinders directory name failure := by
  intro hinders
  cases hinders with
  | undecodable file noText _ =>
    obtain ⟨_, again⟩ := file
    cases located.symm.trans again
    obtain ⟨s, same⟩ := text _ rfl
    exact noText s same
  | refused refuses => exact not_refuses_of_located located refuses

theorem hasEntry_iff (there : fs.directory? directory = .ok (some here)) :
    fs.HasEntry directory name ↔ name ∈ fs.names here := by
  rw [mem_names]
  constructor
  · rintro ⟨other, entry, located, held⟩
    cases there.symm.trans (directory?_eq_some_iff.mpr located)
    exact ⟨entry, held⟩
  · rintro ⟨entry, held⟩
    exact ⟨here, entry, directory?_eq_some_iff.mp there, held⟩

end FileSystem

open FileSystem

variable {fs : FileSystem} {directory : Path} {here : Location}

/-- An entry cannot be read exactly if it hinders the reading of its directory. -/
theorem recordIn_eq_error_iff {name : String} {failure : Failure} :
    recordIn fs directory name = .error failure ↔ fs.Hinders directory name failure := by
  constructor
  · intro failed
    rcases recordIn_refused failed with ⟨rfl, deep⟩ | ⟨bytes, fault, rfl, held, decoded⟩
    · exact .refused (isFile_eq_error_iff.mp deep).2
    · exact .undecodable (read_eq_ok_iff.mp held) (Text.Utf8.ne_encode_of_decode decoded) decoded
  · intro hinders
    cases hinders with
    | undecodable file _ told => exact recordIn_of_fault (read_eq_ok_iff.mpr file) told
    | refused refuses =>
      have isFile := isFile_eq_error_iff.mpr ⟨rfl, refuses⟩
      simp [recordIn, isFile, Except.mapError, bind, Except.bind]

/-! ## Directories -/

/-- In the order of names, the entries before one of them are those with a lesser name. -/
theorem FileSystem.Unique.mem_before_iff (unique : fs.Unique) {before after : List String}
    {name : String} (split : fs.names here = before ++ name :: after) {earlier : String}
    (listed : earlier ∈ fs.names here) : earlier ∈ before ↔ earlier < name := by
  have increasing := unique.names_increasing here
  rw [split] at increasing listed
  obtain ⟨_, behind, across⟩ := List.pairwise_append.mp increasing
  constructor
  · intro member
    exact across earlier member name List.mem_cons_self
  · intro below
    rcases List.mem_append.mp listed with member | member
    · exact member
    · rcases List.mem_cons.mp member with rfl | later
      · exact absurd below (String.lt_irrefl _)
      · exact absurd (List.rel_of_pairwise_cons behind later) (String.lt_asymm below)

/-- Reading fails exactly if there is no asking about the path, or an entry hinders it; of several
entries the one with the least name decides. -/
theorem readRecords_eq_error_iff (unique : fs.Unique) {failure : Failure} :
    readRecords fs directory = .error failure ↔
      failure = .file (.refused .nameTooLong directory) ∧ fs.Refuses directory ∨
        fs.FirstHinders directory failure := by
  rcases asked : fs.directory? directory with e | (_ | here)
  · obtain ⟨rfl, refuses⟩ := directory?_eq_error_iff.mp asked
    have empty : ¬fs.FirstHinders directory failure := by
      rintro ⟨name, ⟨here, entry, located, _⟩, _⟩
      cases asked.symm.trans (directory?_eq_some_iff.mpr located)
    simp [readRecords_of_refused asked, refuses, empty, eq_comm]
  · have empty : ¬fs.FirstHinders directory failure := by
      rintro ⟨name, ⟨here, entry, located, _⟩, _⟩
      cases asked.symm.trans (directory?_eq_some_iff.mpr located)
    simp [readRecords_of_none asked, not_refuses_of_directory asked, empty]
  · have fails : readRecords fs directory = .error failure ↔
        (fs.names here).mapM (recordIn fs directory) = .error failure := by
      rw [readRecords_of_some asked]
      cases (fs.names here).mapM (recordIn fs directory) <;> simp [Except.map]
    rw [fails, mapM_eq_error_iff]
    simp only [not_refuses_of_directory asked, and_false, false_or, FirstHinders,
      hasEntry_iff asked, recordIn_eq_error_iff]
    constructor
    · rintro ⟨name, before, after, split, answers, hinders⟩
      refine ⟨name, by simp [split], hinders, fun earlier listed below other hindered => ?_⟩
      obtain ⟨answer, told⟩ := answers earlier ((unique.mem_before_iff split listed).mpr below)
      cases told.symm.trans (recordIn_eq_error_iff.mpr hindered)
    · rintro ⟨name, listed, hinders, first⟩
      obtain ⟨before, after, split⟩ := List.append_of_mem listed
      refine ⟨name, before, after, split, fun earlier member => ?_, hinders⟩
      have inside : earlier ∈ fs.names here := split ▸ List.mem_append_left _ member
      have below := (unique.mem_before_iff split inside).mp member
      rcases told : recordIn fs directory earlier with other | answer
      · exact absurd (recordIn_eq_error_iff.mp told) (first earlier inside below other)
      · exact ⟨answer, rfl⟩

/-- Reading gives the records of the entries of a directory that lead to files. -/
theorem mem_of_readRecords (there : fs.directory? directory = .ok (some here))
    {records : List Record} (read : readRecords fs directory = .ok records) {record : Record} :
    record ∈ records ↔ fs.HasEntry directory record.rootKey ∧
      ∃ s, fs.FileAt (directory.entry record.rootKey) (Text.Utf8.encode s) ∧
        record.lines = (Text.splitLines (Text.universalNewlines s)).map Wording.ofChars := by
  have found := directory?_eq_some_iff.mp there
  have whole : records = (fs.names here).filterMap fun name =>
      (recordIn fs directory name).toOption.join := by
    rcases readRecords_cases found with ⟨_, _, _, _, failed⟩ | whole
    · cases read.symm.trans failed
    · exact Except.ok.inj (read.symm.trans whole)
  rw [whole, List.mem_filterMap, hasEntry_iff there]
  simp only [toOption_join_eq_some_iff, recordIn_eq_some_iff]
  constructor
  · rintro ⟨name, listed, rfl, place, bytes, located, decoded⟩
    obtain ⟨s, rfl, lines⟩ := Record.decode_eq_ok_iff.mp decoded
    exact ⟨listed, s, ⟨place, located⟩, lines⟩
  · rintro ⟨listed, s, ⟨place, located⟩, lines⟩
    exact ⟨record.rootKey, listed, rfl, place, _, located,
      Record.decode_eq_ok_iff.mpr ⟨s, rfl, lines⟩⟩

/-- Where an entry hinders the reading of a directory, it fails. -/
theorem failed_of_hinders (unique : fs.Unique) {name : String} {failure : Failure}
    (listed : fs.HasEntry directory name) (hinders : fs.Hinders directory name failure) :
    ∃ first, fs.FirstHinders directory first ∧ readRecords fs directory = .error first := by
  obtain ⟨here, entry, located, held⟩ := listed
  have there := directory?_eq_some_iff.mpr located
  rcases read : readRecords fs directory with first | records
  · refine ⟨first, ?_, rfl⟩
    rcases (readRecords_eq_error_iff unique).mp read with ⟨_, refuses⟩ | decides
    · exact absurd refuses (not_refuses_of_directory there)
    · exact decides
  · exact absurd read (readRecords_ne_ok_of_entry there (mem_names.mpr ⟨entry, held⟩)
      (recordIn_eq_error_iff.mpr hinders) records)

/-- Reading fails exactly if there is no asking about the path, or if an entry hinders it, which
leads to a file whose bytes are those of no text, or which there is no asking about; of several
entries the one with the least name decides what it fails with. It gives no records if there is no
directory. Else it gives one record for each entry that leads to a file, by increasing names. A
record holds the lines of its file, none of them has a line boundary in it, and its entries tell
them. -/
theorem readRecords_by_entries (unique : fs.Unique) (directory : Path) :
    (∀ failure, readRecords fs directory = .error failure ↔
      failure = .file (.refused .nameTooLong directory) ∧ fs.Refuses directory ∨
        fs.FirstHinders directory failure) ∧
    (∀ name failure, fs.HasEntry directory name → fs.Hinders directory name failure →
      ∃ first, fs.FirstHinders directory first ∧ readRecords fs directory = .error first) ∧
    (fs.isDirectory directory = .ok false → readRecords fs directory = .ok []) ∧
    (fs.isDirectory directory = .ok true →
      (∀ name failure, fs.HasEntry directory name → ¬fs.Hinders directory name failure) →
      ∃ records, readRecords fs directory = .ok records ∧
        records.Pairwise (·.rootKey < ·.rootKey) ∧
        (∀ name, (∃ record ∈ records, record.rootKey = name) ↔
          fs.HasEntry directory name ∧ ∃ bytes, fs.FileAt (directory.entry name) bytes) ∧
        ∀ record ∈ records,
          (∃ s, fs.FileAt (directory.entry record.rootKey) (Text.Utf8.encode s) ∧
            record.lines = (Text.splitLines (Text.universalNewlines s)).map Wording.ofChars) ∧
          (∀ line ∈ record.lines, ∀ c, .char c ∈ line → Text.isLineBoundary c = false) ∧
          List.Forall₂ TellsLine record.entries record.lines) := by
  refine ⟨fun failure => readRecords_eq_error_iff unique,
    fun name failure listed hinders => failed_of_hinders unique listed hinders,
    fun missing => readRecords_of_none (isDirectory_eq_false_iff.mp missing),
    fun present clear => ?_⟩
  obtain ⟨here, located⟩ := isDirectory_eq_true_iff.mp present
  have there := directory?_eq_some_iff.mpr located
  rcases read : readRecords fs directory with failure | records
  · exfalso
    rcases (readRecords_eq_error_iff unique).mp read with ⟨_, refuses⟩ | ⟨name, listed, hinders, _⟩
    · exact absurd refuses (not_refuses_of_directory there)
    · exact clear name failure listed hinders
  · refine ⟨records, rfl, readRecords_increasing unique read, fun name => ?_,
      fun record member => ?_⟩
    · constructor
      · rintro ⟨record, member, rfl⟩
        obtain ⟨listed, s, file, _⟩ := (mem_of_readRecords there read).mp member
        exact ⟨listed, _, file⟩
      · rintro ⟨listed, bytes, file⟩
        -- The bytes are those of a text, since the entry would hinder the reading otherwise.
        rcases decoded : Text.Utf8.decode bytes with fault | s
        · exact absurd (.undecodable file (Text.Utf8.ne_encode_of_decode decoded) decoded)
            (clear name _ listed)
        · obtain rfl := Text.Utf8.decode_eq_ok_iff.mp decoded
          exact ⟨⟨name, _⟩, (mem_of_readRecords there read).mpr ⟨listed, s, file, rfl⟩, rfl⟩
    · obtain ⟨_, s, file, lines⟩ := (mem_of_readRecords there read).mp member
      refine ⟨⟨s, file, lines⟩, fun line inside c among => ?_, ?_⟩
      · rw [lines] at inside
        obtain ⟨chars, split, rfl⟩ := List.mem_map.mp inside
        exact Text.splitLines_whole split c (Wording.char_mem_ofChars.mp among)
      · rw [Record.entries, List.forall₂_map_left_iff, List.forall₂_same]
        exact fun line _ => entryOf_tellsLine line

/-- Files with a directory that has a text, a link to it, a directory and one more file. -/
def mixedFiles (last : List UInt8) : FileSystem :=
  ⟨[(["t"], .directory), (["t", "a"], .file (Text.Utf8.encode "x\r\n   y".toList)),
      (["t", "b"], .link "a"), (["t", "c"], .directory), (["t", "d"], .file last)], []⟩

theorem mixedFiles_located (last : List UInt8) :
    let files := mixedFiles last
    let directory : Path := ⟨.slash, ["t"]⟩
    let text : Entry := .file (Text.Utf8.encode "x\r\n   y".toList)
    files.locate true directory = .ok (.found ["t"] .directory) ∧
      files.locate true (directory.entry "a") = .ok (.found ["t", "a"] text) ∧
      files.locate true (directory.entry "b") = .ok (.found ["t", "a"] text) ∧
      files.locate true (directory.entry "c") = .ok (.found ["t", "c"] .directory) ∧
      files.locate true (directory.entry "d") = .ok (.found ["t", "d"] (.file last)) := by
  intro files directory text
  have inside : ∀ {name d}, files.Leads true maxLinks ["t"] [name] d →
      files.Leads true maxLinks [] ["t", name] d := fun leads =>
    .down rfl (by decide) rfl (by simp) leads
  refine ⟨?_, ?_, ?_, ?_, ?_⟩ <;> refine locate_eq_ok_iff.mpr ⟨by decide, by decide, ?_⟩
  · exact .down rfl (by decide) rfl (by simp) (.stay rfl)
  · exact inside (.down rfl (by decide) rfl (by simp) (.stay rfl))
  · exact inside (.through rfl (by decide) rfl (by simp)
      (.down rfl (by decide) rfl (by simp) (.stay rfl)))
  · exact inside (.down rfl (by decide) rfl (by simp) (.stay rfl))
  · exact inside (.down rfl (by decide) rfl (by simp) (.stay rfl))

theorem mixedFiles_entry {last : List UInt8} {name : String}
    (listed : (mixedFiles last).HasEntry ⟨.slash, ["t"]⟩ name) :
    name = "a" ∨ name = "b" ∨ name = "c" ∨ name = "d" := by
  obtain ⟨here, entry, located, held⟩ := listed
  cases (mixedFiles_located last).1.symm.trans located
  have known := (mem_keys_iff (mixedFiles last) (by simp)).mpr ⟨entry, held⟩
  simpa [mixedFiles] using known

/-- Only the last file may hinder the reading. -/
theorem mixedFiles_clear {last : List UInt8} {name : String}
    (listed : (mixedFiles last).HasEntry ⟨.slash, ["t"]⟩ name)
    (text : name = "d" → ∃ s, last = Text.Utf8.encode s) (failure : Failure) :
    ¬(mixedFiles last).Hinders ⟨.slash, ["t"]⟩ name failure := by
  obtain ⟨_, first, link, inner, final⟩ := mixedFiles_located last
  rcases mixedFiles_entry listed with rfl | rfl | rfl | rfl
  · exact not_hinders_of_located first (by rintro _ ⟨⟩; exact ⟨_, rfl⟩) failure
  · exact not_hinders_of_located link (by rintro _ ⟨⟩; exact ⟨_, rfl⟩) failure
  · exact not_hinders_of_located inner (by simp) failure
  · exact not_hinders_of_located final (by rintro _ ⟨⟩; exact text rfl) failure

/-- A file that is no text makes the reading fail with its fault. If it is a text, there are records
of it, of the other file and of the link, and none of the directory. -/
theorem readRecords_by_entries_mixed :
    readRecords (mixedFiles [0xff]) ⟨.slash, ["t"]⟩ =
        .error (.undecodable ⟨0, [0xff], .invalidStart⟩) ∧
      ∃ records, readRecords (mixedFiles []) ⟨.slash, ["t"]⟩ = .ok records ∧
        (∃ record ∈ records, record.rootKey = "b") ∧ ¬∃ record ∈ records, record.rootKey = "c" := by
  have unique : ∀ last, (mixedFiles last).Unique := fun last => by
    simp [FileSystem.Unique, mixedFiles]
  have listed : ∀ {last name}, (mixedFiles last).lookup ["t", name] ≠ none →
      (mixedFiles last).HasEntry ⟨.slash, ["t"]⟩ name := fun held =>
    let ⟨entry, found⟩ := Option.ne_none_iff_exists'.mp held
    ⟨["t"], entry, (mixedFiles_located _).1, found⟩
  constructor
  · obtain ⟨_, _, _, _, final⟩ := mixedFiles_located [0xff]
    have told : Text.Utf8.decode [0xff] = .error ⟨0, [0xff], .invalidStart⟩ := rfl
    refine ((readRecords_by_entries (unique [0xff]) ⟨.slash, ["t"]⟩).1 _).mpr (.inr ?_)
    refine ⟨"d", listed (by decide),
      .undecodable ⟨_, final⟩ (Text.Utf8.ne_encode_of_decode told) told, ?_⟩
    intro earlier inside below
    exact mixedFiles_clear inside (by rintro rfl; exact absurd below (String.lt_irrefl _))
  · obtain ⟨there, _, link, inner, _⟩ := mixedFiles_located []
    obtain ⟨records, read, _, tells, _⟩ :=
      (readRecords_by_entries (unique []) ⟨.slash, ["t"]⟩).2.2.2
        (isDirectory_eq_true_iff.mpr ⟨_, there⟩)
        fun name failure inside => mixedFiles_clear inside (fun _ => ⟨[], rfl⟩) failure
    refine ⟨records, read, (tells "b").mpr ⟨listed (by decide), _, _, link⟩, fun record => ?_⟩
    obtain ⟨_, _, _, file⟩ := (tells "c").mp record
    cases inner.symm.trans file

/-- A link that leads nowhere makes the reading fail if its target is too long a name, although
nothing in the directory is a file. -/
theorem readRecords_refused_link :
    let directory : Path := ⟨.slash, ["repo", "b"]⟩
    let files := strayFiles (String.ofList (.replicate 256 'n'))
    files.IsTree ∧ files.isDirectory directory = .ok true ∧
      (∀ name bytes, files.HasEntry directory name → ¬files.FileAt (directory.entry name) bytes) ∧
      ¬∃ records, readRecords files directory = .ok records := by
  intro directory files
  have tree : files.IsTree := by decide
  have there : files.locate true directory = .ok (.found ["repo", "b"] .directory) :=
    locate_eq_ok_iff.mpr ⟨by decide, by decide,
      .down rfl (by decide) rfl (by simp) (.down rfl (by decide) rfl (by simp) (.stay rfl))⟩
  have refused : files.Refuses (directory.entry ".tracking") := strayFiles_refuses
  have listed : files.HasEntry directory ".tracking" := ⟨_, _, there, rfl⟩
  refine ⟨tree, isDirectory_eq_true_iff.mpr ⟨_, there⟩, fun name bytes inside file => ?_, ?_⟩
  · obtain ⟨here, entry, located, held⟩ := inside
    cases there.symm.trans located
    have only : ∀ target entry, (strayFiles target).lookup ["repo", "b", name] = some entry →
        name = ".tracking" := fun target entry held => by
      simpa [strayFiles] using (mem_keys_iff (strayFiles target) (by simp)).mpr ⟨entry, held⟩
    obtain ⟨place, found⟩ := file
    rw [only _ entry held] at found
    exact not_refuses_of_located found refused
  · rintro ⟨records, read⟩
    obtain ⟨failure, _, failed⟩ := failed_of_hinders tree.unique listed (.refused refused)
    cases read.symm.trans failed

end Provenance
