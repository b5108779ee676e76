import Provenance.Proofs.Tracking.Containment
import Provenance.Proofs.Tracking.Reading
import Provenance.Proofs.Tracking.RootNames

/-!
What is read of a tracking directory after a record was written into it
(`readRecords_after_persist`): the record, with its lines if none of them has a line boundary in it,
and what the other entries held before. An entry that is a symbolic link to the file of the record
changes with it (`recordIn_after_set`).
-/
namespace Provenance

open FileSystem

/-- A name without a slash leads to the entry of the name, or nowhere further. -/
theorem Path.child_of_noSlash {name : String} (noSlash : '/' ∉ name.toList) (p : Path) :
    p.child name = p ∨ p.child name = p.entry name := by
  cases idle : isIdle name with
  | false => exact .inr (child_part p ⟨idle, noSlash⟩)
  | true =>
    left
    have nothing : ofText name = ⟨.relative, []⟩ := by
      rcases (by simpa [isIdle] using idle : name = "" ∨ name = ".") with rfl | rfl <;> decide
    simp [child, join, nothing]

/-- An entry that does not lead to the file that is written holds the record that it held. -/
theorem recordIn_after_set {fs : FileSystem} {place : Location} {bytes : List UInt8}
    (below : place ≠ []) (kept : fs.Extends (fs.set place (.file bytes))) {directory : Path}
    {record : Record}
    (elsewhere : (fs.set place (.file bytes)).locate true (directory.entry record.rootKey) ≠
      .ok (.found place (.file bytes))) :
    recordIn (fs.set place (.file bytes)) directory record.rootKey = .ok (some record) ↔
      recordIn fs directory record.rootKey = .ok (some record) := by
  rw [recordIn_eq_some_iff, recordIn_eq_some_iff]
  constructor
  · rintro ⟨_, q, old, located, decoded⟩
    refine ⟨rfl, q, old, ?_, decoded⟩
    obtain ⟨noNull, short, leads⟩ := locate_eq_ok_iff.mp located
    have other : q ≠ place := by
      rintro rfl
      have held := leads.lookup_found
      rw [lookup_set_self fs _ below] at held
      cases held
      exact elsewhere located
    exact locate_eq_ok_iff.mpr ⟨noNull, short, leads.of_set below other⟩
  · rintro ⟨_, q, old, located, decoded⟩
    refine ⟨rfl, q, old, ?_, decoded⟩
    obtain ⟨later, held, found⟩ := locate_extends kept located
    obtain ⟨_, _, leads⟩ := locate_eq_ok_iff.mp located
    by_cases same : q = place
    · subst same
      rw [lookup_set_self fs _ below] at held
      cases held
      exact absurd found elsewhere
    · rw [lookup_set_of_ne _ same, leads.lookup_found] at held
      cases held
      exact found

/-- Making a directory changes the record of no entry of it, unless the path of the directory leads
back over one that was missing. -/
theorem recordIn_after_makeDirectories {files grown : FileSystem} (tree : files.IsTree)
    {directory : Path} (named : directory.isAbsolute = true ∨ directory.parts ≠ [])
    (made : files.makeDirectories disk directory = (none, grown))
    (straight : files.isDirectory directory = .ok true ∨ ".." ∉ directory.parts)
    {record : Record} :
    recordIn grown directory record.rootKey = .ok (some record) ↔
      recordIn files directory record.rootKey = .ok (some record) := by
  have grows : Grows (fun _ => True) files (files.makeDirectories disk directory).2 :=
    files.makeDirectories_grows _ fun _ _ _ _ _ _ _ => trivial
  rw [made] at grows
  rcases straight with there | down
  · rw [makeDirectories_of_directory there] at made
    cases made
    rfl
  · rcases makeDirectories_cases tree down (by rw [made]) with same | ⟨here, there, new⟩
    · rw [made] at same
      rw [← (same : grown = files)]
    · rw [made] at there
      rw [recordIn_eq_some_iff, recordIn_eq_some_iff]
      constructor
      · -- What is in a new directory was made, so it is no file.
        rintro ⟨_, q, bytes, located, _⟩
        exfalso
        obtain ⟨other, old, again, held, noDirectory⟩ :=
          (grows.isTree tree).entry_of_locate named located
        obtain rfl : here = other := by
          rw [(there : grown.locate true directory = _)] at again
          cases again
          rfl
        rcases grows.lookup (here ++ [record.rootKey]) with same | ⟨_, made, _⟩
        · rw [held] at same
          rw [tree.parents here _ old same.symm] at new
          cases new
        · rw [held] at made
          exact noDirectory (Option.some.inj made)
      · rintro ⟨_, q, bytes, located, decoded⟩
        exact ⟨rfl, q, bytes, grows.locate located, decoded⟩

/-- After a record was written, reading its tracking directory gives the record under its name once,
with the lines written if and only if none of them has a line boundary in it, and every other record
that is there: with what was written too if its entry is a link to the same file, and otherwise the
one that the entry held before. Unless the path of the directory leads back with `..` over a
directory that had to be made, that is what it held before the directories were made, too. The
reading is only refused for an entry that there is no asking about. -/
theorem readRecords_after_persist {disk : Disk} {files after : FileSystem} (tree : files.IsTree)
    (begins : files.StartsAtNoLink) {file path : Path} {root : RequestRoot}
    {lines : List Wording}
    (noSlash : '/' ∉ root.fileName.toList)
    (done : (persist disk files file root lines).files = after)
    (well : (persist disk files file root lines).answer = .ok ⟨path, none⟩)
    {here : Location}
    (into : after.locate true (trackingBeside file) = .ok (.found here .directory))
    (texts : ∀ name bytes, name ≠ root.fileName →
      after.read ((trackingBeside file).entry name) = .ok bytes →
      ∃ s, Text.Utf8.decode bytes = .ok s) :
    (∃ name ∈ after.names here, name ≠ root.fileName ∧
        readRecords after (trackingBeside file) =
          .error (.file (.refused .nameTooLong ((trackingBeside file).entry name))) ∧
        (after.NoLinks → ¬((trackingBeside file).entry name).Fits)) ∨
      ∃ records back, readRecords after (trackingBeside file) = .ok records ∧
        records.Pairwise (·.rootKey < ·.rootKey) ∧
        (∀ held, ⟨root.fileName, held⟩ ∈ records ↔ held = back) ∧
        (back = lines ↔ ∀ line ∈ lines, ∀ c, .char c ∈ line → Text.isLineBoundary c = false) ∧
        ∀ other : Record, other.rootKey ≠ root.fileName →
          (after.locate true ((trackingBeside file).entry other.rootKey) =
              after.locate true (recordPath file root) →
            (other ∈ records ↔ other.lines = back)) ∧
          (after.locate true ((trackingBeside file).entry other.rootKey) ≠
              after.locate true (recordPath file root) →
            (other ∈ records ↔ recordIn (files.makeDirectories disk (trackingBeside file)).2
              (trackingBeside file) other.rootKey = .ok (some other)) ∧
            (files.isDirectory (trackingBeside file) = .ok true ∨ ".." ∉ file.parent.parts →
              (other ∈ records ↔
                recordIn files (trackingBeside file) other.rootKey = .ok (some other)))) := by
  subst done
  have named : (trackingBeside file).isAbsolute = true ∨ (trackingBeside file).parts ≠ [] :=
    .inr (by simp [trackingBeside_eq])
  have grows : Grows (fun _ => True) files
      (files.makeDirectories disk (recordPath file root).parent).2 :=
    files.makeDirectories_grows _ fun _ _ _ _ _ _ _ => trivial
  have still := isTree_persist tree disk file root lines
  obtain ⟨grown, place, made, left, encodable, room, kept, located⟩ :=
    persist_steps ((grows.isTree tree).followsLinks (begins.grows grows)) well
  rw [left] at into texts still ⊢
  have below : place ≠ [] := by
    rintro rfl
    exact room (lookup_root grown)
  -- The record lies in the directory, since the directory is not itself the file written.
  have target : recordPath file root = (trackingBeside file).entry root.fileName := by
    refine (Path.child_of_noSlash noSlash (trackingBeside file)).resolve_left fun same => ?_
    rw [recordPath, same, into] at located
    cases located
  have parent : (recordPath file root).parent = trackingBeside file := by
    simp [target, Path.entry, Path.parent]
  rw [parent] at made
  obtain ⟨back, decoded, exact_iff⟩ := Record.decode_bytes_iff encodable
  have own : recordIn (grown.set place (.file (Record.bytes lines))) (trackingBeside file)
      root.fileName = .ok (some ⟨root.fileName, back⟩) :=
    recordIn_of_text (by rw [← target]; exact located) decoded
  have readable : ∀ name bytes,
      (grown.set place (.file (Record.bytes lines))).read ((trackingBeside file).entry name) =
        .ok bytes → ∃ s, Text.Utf8.decode bytes = .ok s := by
    intro name bytes held
    by_cases same : name = root.fileName
    · obtain ⟨q, found⟩ := read_eq_ok_iff.mp held
      rw [same, ← target, located] at found
      cases found
      exact Record.decode_bytes_isOk lines
    · exact texts name bytes same held
  rcases readRecords_of_texts into readable with
    ⟨name, member, failed, deep⟩ | ⟨records, read⟩
  · refine .inl ⟨name, member, ?_, failed, (isFile_eq_error_iff.mp deep).2.not_fits⟩
    rintro rfl
    rw [← target, isFile_eq_true_iff.mpr ⟨place, _, located⟩] at deep
    cases deep
  · refine .inr ⟨records, back, read, readRecords_increasing still.unique read, fun held => ?_,
      exact_iff, fun other differs => ⟨fun same => ?_, fun apart => ?_⟩⟩
    · rw [mem_readRecords_iff still named read, own]
      simp [eq_comm]
    · rw [mem_readRecords_iff still named read]
      rw [located] at same
      rw [recordIn_of_text same decoded]
      obtain ⟨key, held⟩ := other
      simp [eq_comm]
    · rw [located] at apart
      have before := recordIn_after_set below kept apart
      rw [mem_readRecords_iff still named read, made, before]
      refine ⟨Iff.rfl, fun straight => recordIn_after_makeDirectories tree named made ?_⟩
      simpa [trackingBeside_eq, trackingName] using straight

/-- The record of an application beside `/lib.jar`, where another record is there already. -/
theorem readRecords_after_persist_library :
    let files : FileSystem := ⟨[([".tracking"], .directory),
      ([".tracking", "old"], .file (Record.bytes ["was"]))], []⟩
    let app : Artifact := { group := "com.x", name := "app", version := "1.0" }
    let after := (persist .ample files (.ofText "/lib.jar") (.artifact app) ["one"]).files
    ∃ records, readRecords after (.ofText "/.tracking") = .ok records ∧
      ⟨"com.x_app_1.0", ["one"]⟩ ∈ records ∧ ⟨"old", ["was"]⟩ ∈ records := by
  intro files app after
  let added : FileSystem := ⟨[([".tracking"], .directory),
    ([".tracking", "old"], .file (Record.bytes ["was"])),
    ([".tracking", "com.x_app_1.0"], .file (Record.bytes ["one"]))], []⟩
  have target : recordPath (.ofText "/lib.jar") (.artifact app) =
      ⟨.slash, [".tracking", "com.x_app_1.0"]⟩ := by decide
  have beside : trackingBeside (.ofText "/lib.jar") = ⟨.slash, [".tracking"]⟩ := by decide
  have name : (RequestRoot.artifact app).fileName = "com.x_app_1.0" := by decide
  have tree : files.IsTree := by decide
  have linkFree : added.NoLinks := by decide
  have there : files.locate true ⟨.slash, [".tracking"]⟩ =
      .ok (.found [".tracking"] .directory) :=
    locate_eq_ok_iff.mpr ⟨by decide, by decide, tree.leads (by decide) true _ rfl⟩
  have free : files.locate true ⟨.slash, [".tracking", "com.x_app_1.0"]⟩ =
      .ok (.free [".tracking", "com.x_app_1.0"]) :=
    locate_eq_ok_iff.mpr ⟨by decide, by decide,
      .down rfl (by decide) rfl (by simp) (.free rfl (by decide) rfl)⟩
  have old : files.locate true ⟨.slash, [".tracking", "old"]⟩ =
      .ok (.found [".tracking", "old"] (.file (Record.bytes ["was"]))) :=
    locate_eq_ok_iff.mpr ⟨by decide, by decide, tree.leads (by decide) true _ rfl⟩
  have wrote : persist .ample files (.ofText "/lib.jar") (.artifact app) ["one"] =
      ⟨.ok ⟨recordPath (.ofText "/lib.jar") (.artifact app), none⟩, added, []⟩ := by
    refine persist_of_directory ["one"] (by decide) (Disk.stops_ample _ _) ?_
      (openPlace_eq_ok_iff.mpr (.inr ⟨by rw [target]; exact free, rfl⟩))
    rw [target]
    exact isDirectory_eq_true_iff.mpr ⟨_, there⟩
  have done : after = added := congrArg Effect.files wrote
  have well : (persist .ample files (.ofText "/lib.jar") (.artifact app) ["one"]).answer =
      .ok ⟨recordPath (.ofText "/lib.jar") (.artifact app), none⟩ := by rw [wrote]
  have grown : added.IsTree := by decide
  have into : added.locate true (trackingBeside (.ofText "/lib.jar")) =
      .ok (.found [".tracking"] .directory) := by
    rw [beside]
    exact locate_eq_ok_iff.mpr ⟨by decide, by decide, grown.leads linkFree true _ rfl⟩
  have texts : ∀ q bytes, added.lookup q = some (.file bytes) →
      ∃ s, Text.Utf8.decode bytes = .ok s := by
    intro q bytes held
    have below : q ≠ [] := by
      rintro rfl
      cases held
    have known : q = [".tracking", "old"] ∧ bytes = Record.bytes ["was"] ∨
        q = [".tracking", "com.x_app_1.0"] ∧ bytes = Record.bytes ["one"] := by
      simpa [added] using (grown.unique.lookup below).mp held
    rcases known with ⟨_, rfl⟩ | ⟨_, rfl⟩ <;> exact Record.decode_bytes_isOk _
  rw [done]
  rcases readRecords_after_persist tree (by rintro target ⟨⟩) (by decide) done well into
    (fun name bytes _ read => by
      obtain ⟨q, located⟩ := read_eq_ok_iff.mp read
      obtain ⟨_, _, leads⟩ := locate_eq_ok_iff.mp located
      exact texts q bytes leads.lookup_found) with
    ⟨other, member, _, _, tooLong⟩ | ⟨records, back, read, _, own, same_iff, others⟩
  · exfalso
    have names : added.names [".tracking"] = ["com.x_app_1.0", "old"] := by
      simp [added, FileSystem.names, below, List.mergeSort]
    have known : other = "com.x_app_1.0" ∨ other = "old" := by
      simpa [names] using member
    refine tooLong linkFree ?_
    rw [beside]
    rcases known with rfl | rfl <;> decide
  · have new : added.locate true (recordPath (.ofText "/lib.jar") (.artifact app)) =
        .ok (.found [".tracking", "com.x_app_1.0"] (.file (Record.bytes ["one"]))) := by
      rw [target]
      exact locate_eq_ok_iff.mpr ⟨by decide, by decide, grown.leads linkFree true _ rfl⟩
    have still : added.locate true ((⟨.slash, [".tracking"]⟩ : Path).entry "old") =
        .ok (.found [".tracking", "old"] (.file (Record.bytes ["was"]))) :=
      locate_eq_ok_iff.mpr ⟨by decide, by decide, grown.leads linkFree true _ rfl⟩
    rw [name] at own others
    rw [beside] at read others
    refine ⟨records, read, (own _).mpr (same_iff.mpr (by decide)).symm, ?_⟩
    refine (((others ⟨"old", ["was"]⟩ (by decide)).2 ?_).2 (.inr (by decide))).mpr
      (recordIn_of_text old (Record.decode_bytes (by decide) (by decide)))
    rw [still, new]
    simp

/-- A write changes the record of another name, if the entry of the root is a link to it. -/
theorem record_changed_through_link :
    let files : FileSystem := ⟨[([".tracking"], .directory), ([".tracking", "a"], .link "b"),
      ([".tracking", "b"], .file (Record.bytes ["old"]))], []⟩
    let wrote := persist .ample files (.ofText "/lib.jar") (.named "a") ["new"]
    files.IsTree ∧ files.StartsAtNoLink ∧ wrote.answer = .ok ⟨.ofText "/.tracking/a", none⟩ ∧
      readRecords files (.ofText "/.tracking") = .ok [⟨"a", ["old"]⟩, ⟨"b", ["old"]⟩] ∧
      readRecords wrote.files (.ofText "/.tracking") = .ok [⟨"a", ["new"]⟩, ⟨"b", ["new"]⟩] := by
  intro files wrote
  let linked (line : Wording) : FileSystem := ⟨[([".tracking"], .directory),
    ([".tracking", "a"], .link "b"), ([".tracking", "b"], .file (Record.bytes [line]))], []⟩
  have target : recordPath (.ofText "/lib.jar") (.named "a") = ⟨.slash, [".tracking", "a"]⟩ := by
    decide
  have tracking : Path.ofText "/.tracking" = ⟨.slash, [".tracking"]⟩ := by decide
  have there : ∀ line, (linked line).locate true ⟨.slash, [".tracking"]⟩ =
      .ok (.found [".tracking"] .directory) := fun line =>
    locate_eq_ok_iff.mpr ⟨by decide, by decide, .down rfl (by decide) rfl (by simp) (.stay rfl)⟩
  have direct : ∀ line, (linked line).locate true ⟨.slash, [".tracking", "b"]⟩ =
      .ok (.found [".tracking", "b"] (.file (Record.bytes [line]))) := fun line =>
    locate_eq_ok_iff.mpr ⟨by decide, by decide,
      .down rfl (by decide) rfl (by simp) (.down rfl (by decide) rfl (by simp) (.stay rfl))⟩
  have through : ∀ line, (linked line).locate true ⟨.slash, [".tracking", "a"]⟩ =
      .ok (.found [".tracking", "b"] (.file (Record.bytes [line]))) := fun line =>
    locate_eq_ok_iff.mpr ⟨by decide, by decide, .down rfl (by decide) rfl (by simp)
      (.through rfl (by decide) rfl (by simp) (.down rfl (by decide) rfl (by simp) (.stay rfl)))⟩
  have read : ∀ line, Record.decode (Record.bytes [line]) = .ok [line] →
      readRecords (linked line) ⟨.slash, [".tracking"]⟩ = .ok [⟨"a", [line]⟩, ⟨"b", [line]⟩] := by
    intro line decoded
    have names : (linked line).names [".tracking"] = ["a", "b"] := by
      simp [linked, FileSystem.names, below, List.mergeSort]
    have first : recordIn (linked line) ⟨.slash, [".tracking"]⟩ "a" = .ok (some ⟨"a", [line]⟩) :=
      recordIn_of_text (through line) decoded
    have second : recordIn (linked line) ⟨.slash, [".tracking"]⟩ "b" = .ok (some ⟨"b", [line]⟩) :=
      recordIn_of_text (direct line) decoded
    rcases readRecords_cases (there line) with ⟨name, member, failure, failed, _⟩ | whole
    · have known : name = "a" ∨ name = "b" := by simpa [names] using member
      rcases known with rfl | rfl
      · rw [first] at failed
        cases failed
      · rw [second] at failed
        cases failed
    · simpa [names, first, second, Except.toOption] using whole
  have done : wrote = ⟨.ok ⟨recordPath (.ofText "/lib.jar") (.named "a"), none⟩,
      linked "new", []⟩ := by
    refine persist_of_directory ["new"] (by decide) (Disk.stops_ample _ _) ?_
      (openPlace_eq_ok_iff.mpr (.inl ⟨_, by rw [target]; exact through "old", by simp⟩))
    rw [target]
    exact isDirectory_eq_true_iff.mpr ⟨_, there "old"⟩
  have path : Path.ofText "/.tracking/a" = ⟨.slash, [".tracking", "a"]⟩ := by decide
  rw [done, target, tracking, path]
  exact ⟨by decide, by rintro target ⟨⟩, rfl,
    read "old" (Record.decode_bytes (by decide) (by decide)),
    read "new" (Record.decode_bytes (by decide) (by decide))⟩

end Provenance
