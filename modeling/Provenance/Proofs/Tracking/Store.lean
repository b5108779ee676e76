import Provenance.Proofs.Tracking.History
import Provenance.Proofs.Tracking.Reading

/-!
What can be read back after a run of events. The invariant `Faithful` ties the files to what was
opened: the file of every record holds what came into it when it was opened last, and a tracking
directory holds nothing else. Each event keeps it (`Faithful.acts`), hence a run does
(`faithful_over`), and it determines the answer of `readRecords` (`Faithful.read`).
-/
namespace Provenance

/-- No entry below a place is a tracking directory or lies in one. -/
def FileSystem.Untracked (fs : FileSystem) (place : Location) : Prop :=
  ∀ key ∈ fs.entries.map Prod.fst, place <+: key → trackingName ∉ key.drop place.length

instance (fs : FileSystem) (place : Location) : Decidable (fs.Untracked place) :=
  List.decidableBAll _ _

/-- The path of the base directory makes no detour over directories that are still missing: it has
no `..` in it, or the base directory is there. -/
def Repository.Settled (r : Repository) (fs : FileSystem) : Prop :=
  ".." ∉ r.base.parts ∨ fs.isDirectory r.base = .ok true

theorem lookup_eq_none_of_untracked {fs : FileSystem} {place : Location}
    (untracked : fs.Untracked place) {rest : List String} (inside : trackingName ∈ rest) :
    fs.lookup (place ++ rest) = none := by
  by_contra present
  obtain ⟨entry, held⟩ := Option.ne_none_iff_exists'.mp present
  have below : place ++ rest ≠ [] := by
    rintro empty
    rw [(List.append_eq_nil_iff.mp empty).2] at inside
    cases inside
  have member := (fs.mem_keys_iff below).mpr ⟨entry, held⟩
  have absent := untracked _ member (List.prefix_append _ _)
  rw [List.drop_left] at absent
  exact absent inside

namespace Repository

variable {r : Repository} {fs : FileSystem}

/-- Where an artifact's directories and records lie depends on its identity alone. -/
theorem places_congr {a b : Artifact} (same : a.identity = b.identity) :
    r.trackingOf a = r.trackingOf b ∧ r.recordsAt a = r.recordsAt b := by
  simp only [Artifact.identity, Identity.mk.injEq] at same
  obtain ⟨group, name, version⟩ := same
  simp [trackingOf, directoryOf, recordsAt, Artifact.directories, group, name, version]

/-- No two artifacts share the place of a record. -/
theorem recordsAt_injective {a b : Artifact} {name other : String}
    (same : r.recordsAt a ++ [name] = r.recordsAt b ++ [other]) :
    a.identity = b.identity ∧ name = other := by
  obtain ⟨places, names⟩ := List.append_inj' same rfl
  obtain ⟨directories, -⟩ := List.append_inj' places rfl
  refine ⟨Artifact.directories_injective (List.append_cancel_left directories), ?_⟩
  simpa using names

theorem Settled.extends {before after : FileSystem} (settled : r.Settled before)
    (grown : before.Extends after) : r.Settled after := by
  rcases settled with down | there
  · exact .inl down
  · exact .inr (FileSystem.isDirectory_extends grown there)

/-- The missing directories that the path of an artifact's records spells are above the base
directory or on the way from it to the records. -/
theorem Settled.spelled (settled : r.Settled fs) (linkFree : fs.NoLinks)
    (absolute : r.base.isAbsolute = true) {a : Artifact} (laidOut : a.IsLaidOut) {place : Location}
    (spelled : fs.Spelled (r.trackingOf a) place) (free : fs.lookup place = none) :
    place <+: r.place ∨
      ∃ more, more <+: a.directories ++ [trackingName] ∧ place = r.place ++ more := by
  obtain ⟨parts, begins, same⟩ := spelled
  have rooted : FileSystem.start fs (r.trackingOf a) = [] :=
    if_pos (trackingOf_isAbsolute absolute laidOut)
  rw [rooted] at same
  obtain ⟨rest, whole⟩ := begins
  rw [trackingOf_eq laidOut, List.append_assoc] at whole
  rcases List.append_eq_append_iff.mp whole with ⟨above, base, -⟩ | ⟨more, within, tail⟩
  · left
    rcases settled with down | there
    · rw [same, Repository.place, base, FileSystem.spell_append]
      refine FileSystem.prefix_spell (fun up => down ?_) _
      rw [base]
      exact List.mem_append_right _ up
    · obtain ⟨q, located⟩ := FileSystem.isDirectory_eq_true_iff.mp there
      obtain ⟨_, _, leads⟩ := FileSystem.locate_eq_ok_iff.mp located
      have reached : ∃ middle, fs.Leads true FileSystem.maxLinks [] parts
          (.found middle .directory) := by
        rw [FileSystem.start, if_pos absolute, base] at leads
        by_cases last : above = []
        · rw [last, List.append_nil] at leads
          exact ⟨q, leads⟩
        · exact leads.above last
      obtain ⟨middle, leads⟩ := reached
      have there := leads.lookup_found
      have spelled := leads.place_eq linkFree
      rw [FileSystem.Destination.place, ← same] at spelled
      rw [spelled, free] at there
      cases there
  · right
    have names : ∀ name ∈ more, Path.isIdle name = false ∧ name ≠ ".." := by
      intro name member
      refine names_of_laidOut laidOut name ?_
      rw [tail]
      exact List.mem_append_left _ member
    refine ⟨more, ⟨rest, tail.symm⟩, ?_⟩
    rw [same, within, FileSystem.spell_append, FileSystem.spell_names names, Repository.place]

/-- On the way to an artifact's records, no directory is made in a tracking directory. -/
theorem Settled.spelled_ne (settled : r.Settled fs) (linkFree : fs.NoLinks)
    (absolute : r.base.isAbsolute = true) {a b : Artifact} (laidOut : a.IsLaidOut)
    {place : Location} (spelled : fs.Spelled (r.trackingOf a) place)
    (free : fs.lookup place = none) (name : String) : place ≠ r.recordsAt b ++ [name] := by
  rintro rfl
  rcases settled.spelled linkFree absolute laidOut spelled free with
    ⟨rest, above⟩ | ⟨more, within, same⟩
  · have longer := congrArg List.length above
    simp [recordsAt] at longer
  · simp only [recordsAt, List.append_assoc] at same
    have split := List.append_cancel_left same
    rw [← split, ← List.append_assoc] at within
    have inside : b.directories ++ [trackingName] <+: a.directories := by
      rcases List.prefix_concat_iff.mp within with whole | shorter
      · obtain ⟨equal, -⟩ := List.append_inj' whole rfl
        exact equal ▸ List.prefix_refl _
      · exact (List.prefix_append _ _).trans shorter
    have tracking : trackingName ∈ a.directories := inside.subset (by simp)
    exact (laidOut.directory tracking).2.2 rfl

end Repository
/-! ## The invariant -/

/-- What the file may hold that was opened: a beginning of the bytes of the lines, and bytes that
tell the lines if they came into it as a whole. -/
structure Opened.Leaves (o : Opened) (content : List UInt8) : Prop where
  part : content <+: Record.bytes o.lines
  told : o.whole = true → Record.decode content = .ok o.lines

/-- The files tell what was opened: every file of a record holds what came into it when it was
opened last, and no tracking directory holds anything else, except for directories if the path of
the base directory is not `settled`. -/
structure Faithful (r : Repository) (settled : Prop) (opened : List Opened) (fs : FileSystem) :
    Prop where
  linkFree : fs.NoLinks
  unique : fs.Unique
  stays : settled → r.Settled fs
  held : ∀ a, a.IsLaidOut → ∀ name o, lastOpened? opened a.identity name = some o →
    ∃ content, o.Leaves content ∧ fs.locate true ((r.trackingOf a).entry name) =
      .ok (.found (r.recordsAt a ++ [name]) (.file content))
  only : ∀ a, a.IsLaidOut → ∀ name entry, fs.lookup (r.recordsAt a ++ [name]) = some entry →
    (∃ o, lastOpened? opened a.identity name = some o) ∨
    (entry = .directory ∧ FileSystem.IsName name ∧ ¬settled)

namespace Faithful

variable {r : Repository} {settled : Prop} {opened : List Opened} {fs : FileSystem}

/-- Nothing was opened yet, and nothing is there to be read. -/
theorem init (linkFree : fs.NoLinks) (unique : fs.Unique) (untracked : fs.Untracked r.place)
    (stays : settled → r.Settled fs) : Faithful r settled [] fs := by
  refine ⟨linkFree, unique, stays, ?_, ?_⟩
  · intro a _ name o last
    simp [lastOpened?] at last
  · intro a _ name entry held
    have absent : fs.lookup (r.place ++ (a.directories ++ [trackingName] ++ [name])) = none :=
      lookup_eq_none_of_untracked untracked (by simp)
    simp only [Repository.recordsAt, List.append_assoc] at held absent
    rw [absent] at held
    cases held

/-- Directories on the way to the records of an artifact change no record. -/
theorem grows (faithful : Faithful r settled opened fs) (absolute : r.base.isAbsolute = true)
    {a : Artifact} (laidOut : a.IsLaidOut) {grown : FileSystem}
    (more : FileSystem.Grows (fs.Spelled (r.trackingOf a)) fs grown) :
    Faithful r settled opened grown := by
  refine ⟨more.noLinks faithful.linkFree, more.unique faithful.unique,
    fun holds => (faithful.stays holds).extends more.extends, ?_, ?_⟩
  · intro b other name o last
    obtain ⟨content, leaves, located⟩ := faithful.held b other name o last
    exact ⟨content, leaves, more.locate located⟩
  · intro b other name entry held
    rcases more.lookup (r.recordsAt b ++ [name]) with
      same | ⟨free, there, spelled, above, last, whole, proper⟩
    · rw [same] at held
      exact faithful.only b other name entry held
    · rw [there] at held
      cases held
      obtain ⟨-, same⟩ := List.append_inj' whole rfl
      cases same
      refine .inr ⟨rfl, proper, fun holds => ?_⟩
      exact (faithful.stays holds).spelled_ne faithful.linkFree absolute laidOut spelled free
        name rfl

/-- A file that is opened takes the place of an older one or of none, and changes no other. -/
theorem opens (faithful : Faithful r settled opened fs) {a : Artifact} {o : Opened}
    (about : o.identity = a.identity) {content : List UInt8} (leaves : o.Leaves content)
    (kept : fs.Extends (fs.set (r.recordsAt a ++ [o.name]) (.file content)))
    (located : (fs.set (r.recordsAt a ++ [o.name]) (.file content)).locate true
        ((r.trackingOf a).entry o.name) =
      .ok (.found (r.recordsAt a ++ [o.name]) (.file content))) :
    Faithful r settled (opened ++ [o]) (fs.set (r.recordsAt a ++ [o.name]) (.file content)) := by
  have below : r.recordsAt a ++ [o.name] ≠ [] := by simp
  refine ⟨faithful.linkFree.set _ rfl, faithful.unique.set _ _,
    fun holds => (faithful.stays holds).extends kept, ?_, ?_⟩
  · intro b other record last held
    rw [lastOpened?_append] at held
    split at held
    · rename_i same
      obtain ⟨identity, rfl⟩ := same
      cases held
      obtain ⟨tracking, place⟩ := Repository.places_congr (r := r) (about.symm.trans identity)
      rw [← tracking, ← place]
      exact ⟨content, leaves, located⟩
    · rename_i different
      obtain ⟨before, left, found⟩ := faithful.held b other record last held
      obtain ⟨later, there, again⟩ := FileSystem.locate_extends kept found
      obtain ⟨_, _, leads⟩ := FileSystem.locate_eq_ok_iff.mp found
      have apart : r.recordsAt b ++ [record] ≠ r.recordsAt a ++ [o.name] := by
        intro same
        obtain ⟨identity, names⟩ := Repository.recordsAt_injective same
        exact different ⟨about.trans identity.symm, names.symm⟩
      rw [FileSystem.lookup_set_of_ne _ apart, leads.lookup_found] at there
      cases there
      exact ⟨before, left, again⟩
  · intro b other record entry held
    rw [lastOpened?_append]
    by_cases same : r.recordsAt b ++ [record] = r.recordsAt a ++ [o.name]
    · obtain ⟨identity, names⟩ := Repository.recordsAt_injective same
      exact .inl ⟨o, if_pos ⟨about.trans identity.symm, names.symm⟩⟩
    · rw [FileSystem.lookup_set_of_ne _ same] at held
      have different : ¬(o.identity = b.identity ∧ o.name = record) := by
        rintro ⟨identity, rfl⟩
        exact same (by rw [(Repository.places_congr (r := r) (about.symm.trans identity)).2])
      rw [if_neg different]
      exact faithful.only b other record entry held

/-- An event keeps the invariant, whatever comes of it. -/
theorem acts (faithful : Faithful r settled opened fs) (absolute : r.base.isAbsolute = true)
    {a : Artifact} (laidOut : a.IsLaidOut) {after : FileSystem} {new : Option Opened}
    (acted : Acts r a fs after new) : Faithful r settled (opened ++ new.toList) after := by
  cases acted with
  | passes more =>
    rw [Option.toList_none, List.append_nil]
    exact faithful.grows absolute laidOut more
  | opens _ _ _ more part told kept located =>
    exact (faithful.grows absolute laidOut more).opens rfl ⟨part, told⟩ kept located

end Faithful

theorem Run.opened_handle (run : Run) (disk : Disk) (event : Event) :
    (run.handle (disk, event)).opened = run.opened ++
      (Handled.opened? ⟨event, (record .standard disk run.files event).answer⟩).toList := by
  unfold Run.opened Run.handle
  rw [List.filterMap_append]
  congr 1

/-- Every run of events of a repository keeps the invariant, whatever disks the events meet. -/
theorem faithful_over {r : Repository} {settled : Prop} (absolute : r.base.isAbsolute = true)
    {occasions : List Occasion} (of : ∀ occasion ∈ occasions, occasion.2.IsOf r) {run : Run}
    (faithful : Faithful r settled run.opened run.files) :
    Faithful r settled (occasions.foldl Run.handle run).opened
      (occasions.foldl Run.handle run).files := by
  induction occasions generalizing run with
  | nil => exact faithful
  | cons occasion rest ih =>
    obtain ⟨disk, event⟩ := occasion
    refine ih (fun other member => of other (List.mem_cons_of_mem _ member)) ?_
    have first : event.IsOf r := of (disk, event) (by simp)
    rw [Run.opened_handle]
    exact faithful.acts absolute first.laidOut (record_acts first absolute disk faithful.linkFree)

/-! ## Reading -/

/-- The lines that may be read from a file that was opened: those that it was opened for, or, if
they did not come into it as a whole, those in a beginning of their bytes. -/
structure Opened.Tells (o : Opened) (lines : List Wording) : Prop where
  part : ∃ content, content <+: Record.bytes o.lines ∧ Record.decode content = .ok lines
  whole : o.whole = true → lines = o.lines

/-- Records that tell of the files that were opened for an artifact: one for each of the files, with
lines that came into it when it was opened last. -/
structure TellOpened (opened : List Opened) (identity : Identity) (records : List Record) :
    Prop where
  increasing : records.Pairwise (·.rootKey < ·.rootKey)
  names : ∀ name, (∃ record ∈ records, record.rootKey = name) ↔
    ∃ o, lastOpened? opened identity name = some o
  lines : ∀ record ∈ records, ∀ o,
    lastOpened? opened identity record.rootKey = some o → o.Tells record.lines

/-- An entry that is a directory is no record; it can only be too deep to ask about. -/
theorem recordIn_of_directory {fs : FileSystem} (linkFree : fs.NoLinks) {directory : Path}
    {name : String}
    (notFile : ∀ place bytes,
      fs.locate true (directory.entry name) ≠ .ok (.found place (.file bytes))) :
    recordIn fs directory name = .ok none ∨
      recordIn fs directory name =
          .error (.file (.refused .nameTooLong (directory.entry name))) ∧
        ¬(directory.entry name).Fits := by
  cases asked : fs.isFile (directory.entry name) with
  | error e =>
    obtain ⟨rfl, refuses⟩ := FileSystem.isFile_eq_error_iff.mp asked
    refine .inr ⟨?_, refuses.not_fits linkFree⟩
    simp [recordIn, asked, Except.mapError, bind, Except.bind]
  | ok isFile =>
    cases isFile with
    | true =>
      obtain ⟨place, bytes, located⟩ := FileSystem.isFile_eq_true_iff.mp asked
      exact absurd located (notFile place bytes)
    | false =>
      left
      simp [recordIn, asked, Except.mapError, bind, Except.bind, pure, Except.pure]

namespace Faithful

variable {r : Repository} {settled : Prop} {opened : List Opened} {fs : FileSystem}
  {a : Artifact}

/-- Nothing was opened for an artifact that has no tracking directory. -/
theorem unopened (faithful : Faithful r settled opened fs) (absolute : r.base.isAbsolute = true)
    (laidOut : a.IsLaidOut)
    (missing : ∀ place, fs.locate true (r.trackingOf a) ≠ .ok (.found place .directory))
    (name : String) : lastOpened? opened a.identity name = none := by
  cases last : lastOpened? opened a.identity name with
  | none => rfl
  | some o =>
    obtain ⟨content, _, located⟩ := faithful.held a laidOut name o last
    exact absurd (Repository.located_tracking faithful.linkFree absolute laidOut located)
      (missing _)

/-- A file that was opened is listed in its tracking directory. -/
theorem listed (faithful : Faithful r settled opened fs) (laidOut : a.IsLaidOut) {name : String}
    {o : Opened} (last : lastOpened? opened a.identity name = some o) :
    name ∈ fs.names (r.recordsAt a) := by
  obtain ⟨content, _, located⟩ := faithful.held a laidOut name o last
  obtain ⟨_, _, leads⟩ := FileSystem.locate_eq_ok_iff.mp located
  exact FileSystem.mem_names.mpr ⟨_, leads.lookup_found⟩

/-- A file that was opened is read as a record of lines that came into it, unless the lines were cut
short and what is left of them is no text. -/
theorem recordIn_opened (faithful : Faithful r settled opened fs) (laidOut : a.IsLaidOut)
    {name : String} {o : Opened} (last : lastOpened? opened a.identity name = some o) :
    (∃ lines, recordIn fs (r.trackingOf a) name = .ok (some ⟨name, lines⟩) ∧ o.Tells lines) ∨
      ∃ fault, recordIn fs (r.trackingOf a) name = .error (.undecodable fault) ∧
        o.whole = false := by
  obtain ⟨content, leaves, located⟩ := faithful.held a laidOut name o last
  rcases decoded : Record.decode content with fault | lines
  · refine .inr ⟨fault, ?_, ?_⟩
    · have held := FileSystem.read_eq_ok_iff.mpr ⟨_, located⟩
      rcases undecodable : Text.Utf8.decode content with f | s
      · simp only [Record.decode, undecodable, Except.map, Except.error.injEq] at decoded
        exact decoded ▸ recordIn_of_fault held undecodable
      · simp [Record.decode, undecodable, Except.map] at decoded
    · cases whole : o.whole with
      | false => rfl
      | true =>
        rw [leaves.told whole] at decoded
        cases decoded
  · refine .inl ⟨lines, recordIn_of_text located decoded,
      ⟨content, leaves.part, decoded⟩, fun whole => ?_⟩
    rw [leaves.told whole] at decoded
    exact (Except.ok.inj decoded).symm

/-- An entry of a tracking directory that was never opened is no record, or too deep to ask
about. -/
theorem recordIn_unopened (faithful : Faithful r settled opened fs) (laidOut : a.IsLaidOut)
    (absolute : r.base.isAbsolute = true) {name : String}
    (member : name ∈ fs.names (r.recordsAt a))
    (never : lastOpened? opened a.identity name = none) :
    ¬settled ∧
      (recordIn fs (r.trackingOf a) name = .ok none ∨
        recordIn fs (r.trackingOf a) name =
            .error (.file (.refused .nameTooLong ((r.trackingOf a).entry name))) ∧
          ¬((r.trackingOf a).entry name).Fits) := by
  obtain ⟨entry, held⟩ := FileSystem.mem_names.mp member
  rcases faithful.only a laidOut name entry held with ⟨o, last⟩ | ⟨rfl, proper, detour⟩
  · rw [never] at last
    cases last
  · refine ⟨detour, recordIn_of_directory faithful.linkFree fun place bytes located => ?_⟩
    have same : place = r.recordsAt a ++ [name] :=
      Repository.place_of_locate faithful.linkFree absolute laidOut [name]
        (by simpa using ⟨proper.notIdle, proper.notUp⟩) located
    obtain ⟨_, _, leads⟩ := FileSystem.locate_eq_ok_iff.mp located
    have file := leads.lookup_found
    rw [same, held] at file
    cases file

/-- Where all entries of a tracking directory can be read, its records tell of the files that were
opened. -/
theorem tellOpened (faithful : Faithful r settled opened fs) (laidOut : a.IsLaidOut)
    (absolute : r.base.isAbsolute = true)
    (answered : ∀ name ∈ fs.names (r.recordsAt a),
      ∃ answer, recordIn fs (r.trackingOf a) name = .ok answer) :
    TellOpened opened a.identity ((fs.names (r.recordsAt a)).filterMap fun name =>
      (recordIn fs (r.trackingOf a) name).toOption.join) := by
  have records : ∀ record : Record,
      record ∈ (fs.names (r.recordsAt a)).filterMap (fun name =>
          (recordIn fs (r.trackingOf a) name).toOption.join) →
        record.rootKey ∈ fs.names (r.recordsAt a) ∧
          recordIn fs (r.trackingOf a) record.rootKey = .ok (some record) := by
    intro record member
    obtain ⟨name, inside, kept⟩ := List.mem_filterMap.mp member
    have read := toOption_join_eq_some_iff.mp kept
    obtain ⟨rfl, -⟩ := recordIn_eq_some_iff.mp read
    exact ⟨inside, read⟩
  refine ⟨?_, fun name => ⟨?_, ?_⟩, ?_⟩
  · refine (faithful.unique.names_increasing _).filterMap _
      fun name other below record member later after => ?_
    obtain ⟨rfl, -⟩ := recordIn_eq_some_iff.mp (toOption_join_eq_some_iff.mp member)
    obtain ⟨rfl, -⟩ := recordIn_eq_some_iff.mp (toOption_join_eq_some_iff.mp after)
    exact below
  · rintro ⟨record, member, rfl⟩
    obtain ⟨inside, read⟩ := records record member
    refine Option.ne_none_iff_exists'.mp fun never => ?_
    rcases faithful.recordIn_unopened laidOut absolute inside never with
      ⟨_, skipped | ⟨refused, _⟩⟩
    · rw [skipped] at read
      cases read
    · rw [refused] at read
      cases read
  · rintro ⟨o, last⟩
    have inside := faithful.listed laidOut last
    rcases faithful.recordIn_opened laidOut last with ⟨lines, read, _⟩ | ⟨fault, failed, _⟩
    · exact ⟨⟨name, lines⟩, List.mem_filterMap.mpr ⟨name, inside,
        toOption_join_eq_some_iff.mpr read⟩, rfl⟩
    · obtain ⟨answer, read⟩ := answered name inside
      rw [failed] at read
      cases read
  · intro record member o last
    obtain ⟨_, read⟩ := records record member
    rcases faithful.recordIn_opened laidOut last with ⟨lines, again, tells⟩ | ⟨fault, failed, _⟩
    · rw [again, Except.ok.injEq, Option.some.injEq] at read
      exact read ▸ tells
    · rw [failed] at read
      cases read

/-- What reading the records of an artifact answers. -/
theorem read (faithful : Faithful r settled opened fs) (absolute : r.base.isAbsolute = true)
    (laidOut : a.IsLaidOut) :
    (∃ path, readRecords fs (r.trackingOf a) = .error (.file (.refused .nameTooLong path)) ∧
        ¬path.Fits ∧
        ((path = r.trackingOf a ∧ ∀ name, lastOpened? opened a.identity name = none) ∨
          ¬settled)) ∨
      (∃ fault name o, readRecords fs (r.trackingOf a) = .error (.undecodable fault) ∧
        lastOpened? opened a.identity name = some o ∧ o.whole = false) ∨
      ∃ records, readRecords fs (r.trackingOf a) = .ok records ∧
        TellOpened opened a.identity records := by
  cases asked : fs.directory? (r.trackingOf a) with
  | error e =>
    obtain ⟨rfl, refuses⟩ := FileSystem.directory?_eq_error_iff.mp asked
    have nothing := faithful.unopened absolute laidOut fun place there => by
      rw [FileSystem.directory?_eq_some_iff.mpr there] at asked
      cases asked
    exact .inl ⟨_, readRecords_of_refused asked, refuses.not_fits faithful.linkFree,
      .inl ⟨rfl, nothing⟩⟩
  | ok found =>
    cases found with
    | none =>
      have nothing := faithful.unopened absolute laidOut fun place there => by
        rw [FileSystem.directory?_eq_some_iff.mpr there] at asked
        cases asked
      exact .inr (.inr ⟨[], readRecords_of_none asked, .nil, by simp [nothing], by simp⟩)
    | some place =>
      have located := FileSystem.directory?_eq_some_iff.mp asked
      have same : place = r.recordsAt a := by
        have spelled := Repository.place_of_locate faithful.linkFree absolute laidOut []
          (by simp) (by simpa using located)
        simpa [FileSystem.Destination.place] using spelled
      subst same
      rw [readRecords_of_some asked]
      rcases mapM_reduceOption_cases (recordIn fs (r.trackingOf a)) (fs.names (r.recordsAt a)) with
        ⟨name, member, failure, failed, first⟩ | ⟨answered, answers, all, records⟩
      · rw [first]
        cases last : lastOpened? opened a.identity name with
        | some o =>
          rcases faithful.recordIn_opened laidOut last with ⟨_, read, _⟩ | ⟨fault, undecodable, cut⟩
          · rw [read] at failed
            cases failed
          · rw [undecodable] at failed
            cases failed
            exact .inr (.inl ⟨fault, name, o, rfl, last, cut⟩)
        | none =>
          rcases faithful.recordIn_unopened laidOut absolute member last with
            ⟨detour, skipped | ⟨refused, tooLong⟩⟩
          · rw [skipped] at failed
            cases failed
          · rw [refused] at failed
            cases failed
            exact .inl ⟨_, rfl, tooLong, .inr detour⟩
      · rw [all, Except.map, records]
        exact .inr (.inr ⟨_, rfl, faithful.tellOpened laidOut absolute answered⟩)

end Faithful

/-- After any run of events of a repository, each of which meets a disk of its own, the records of
every artifact are those whose files were opened, one for each file, by increasing names; each holds
the lines of the last event that opened its file, as far as they came into it. The reading fails
where what is left of lines that were cut short is no text. Otherwise it is refused for nothing but
the length of a path: of a tracking directory in which nothing was opened, or behind a base
directory with a detour in its path. -/
theorem readRecords_over {r : Repository} {fs : FileSystem} (absolute : r.base.isAbsolute = true)
    (unique : fs.Unique) (linkFree : fs.NoLinks) (untracked : fs.Untracked r.place)
    {occasions : List Occasion} (of : ∀ occasion ∈ occasions, occasion.2.IsOf r) {a : Artifact}
    (laidOut : a.IsLaidOut) :
    let run := Run.through fs occasions
    (∃ path, readRecords run.files (r.trackingOf a) =
          .error (.file (.refused .nameTooLong path)) ∧ ¬path.Fits ∧
        ((path = r.trackingOf a ∧ ∀ name, lastOpened? run.opened a.identity name = none) ∨
          ¬r.Settled fs)) ∨
      (∃ fault name o, readRecords run.files (r.trackingOf a) = .error (.undecodable fault) ∧
        lastOpened? run.opened a.identity name = some o ∧ o.whole = false) ∨
      ∃ records, readRecords run.files (r.trackingOf a) = .ok records ∧
        TellOpened run.opened a.identity records := by
  have begins : Faithful r (r.Settled fs) (Run.opened ⟨[], fs⟩) (Run.files ⟨[], fs⟩) :=
    .init linkFree unique untracked id
  exact (faithful_over absolute of begins).read absolute laidOut

theorem readRecords_over_libraryEvent :
    let r : Repository := ⟨.ofText "/repo"⟩
    let fs : FileSystem := ⟨[], []⟩
    let run := Run.through fs [(.ample, libraryEvent), (.full, libraryEvent)]
    let a := libraryEvent.artifact
    (∃ path, readRecords run.files (r.trackingOf a) =
          .error (.file (.refused .nameTooLong path)) ∧ ¬path.Fits ∧
        ((path = r.trackingOf a ∧ ∀ name, lastOpened? run.opened a.identity name = none) ∨
          ¬r.Settled fs)) ∨
      (∃ fault name o, readRecords run.files (r.trackingOf a) = .error (.undecodable fault) ∧
        lastOpened? run.opened a.identity name = some o ∧ o.whole = false) ∨
      ∃ records, readRecords run.files (r.trackingOf a) = .ok records ∧
        TellOpened run.opened a.identity records :=
  readRecords_over (by decide) (by decide) (by decide) (by decide)
    (by simpa using libraryEvent_isOf) (by decide)

/-- A directory name of 256 bytes makes the question whether there are records fail, although
nothing was ever written. -/
theorem readRecords_refused :
    let r : Repository := ⟨.ofText "/repo"⟩
    let fs : FileSystem := ⟨[(["repo"], .directory), (["repo", "g"], .directory)], []⟩
    let a : Artifact := { group := "g", name := String.ofList (.replicate 256 'n'), version := "1" }
    r.base.isAbsolute = true ∧ fs.Unique ∧ fs.NoLinks ∧ fs.Untracked r.place ∧ a.IsLaidOut ∧
      readRecords (Run.through fs []).files (r.trackingOf a) =
        .error (.file (.refused .nameTooLong (r.trackingOf a))) := by
  intro r fs a
  have name : IsLayoutName a.name := isLayoutName_replicate (by decide)
  have plain : Text.IsPlain a.name := Text.isPlain_replicate 256
  have long : a.name.utf8ByteSize = 256 := utf8ByteSize_replicate 256
  have laidOut : a.IsLaidOut := ⟨by decide, name, by decide, by decide, plain, by decide⟩
  have tracking : r.trackingOf a = ⟨.slash, ["repo", "g", a.name, "1", ".tracking"]⟩ := by
    have base : r.base = ⟨.slash, ["repo"]⟩ := by decide
    have group : Text.fieldsOf '.' a.group = ["g"] := by decide
    rw [Repository.trackingOf_eq laidOut, base, Artifact.directories, group]
    rfl
  have text : (r.trackingOf a).text = "/repo/g/" ++ (a.name ++ "/1/.tracking") := by
    rw [tracking, ← String.toList_inj]
    simp [Path.text, Path.Root.text, Text.ofFields, Text.joinWith]
  have refuses : (Run.through fs []).files.Refuses (r.trackingOf a) := by
    have noNull : '\x00' ∉ (r.trackingOf a).text.toList := by
      have noNull : '\x00' ∉ a.name.toList := fun member => (plain _ member).2.1 rfl
      rw [text]
      simp [noNull]
    have stopped : (Run.through fs []).files.walk true FileSystem.maxLinks []
        (r.trackingOf a).parts = .error .nameTooLong := by
      have part := Artifact.isPart_of_layoutName name plain
      rw [tracking, FileSystem.walk_cons_directory (by decide) (by decide) (by decide),
        FileSystem.walk_cons_directory (by decide) (by decide) (by decide),
        FileSystem.walk_cons_long (by decide) part.notIdle name.2.2.1 (by rw [long]; decide)]
    have rooted : (r.trackingOf a).isAbsolute = true := by
      rw [tracking]
      decide
    refine ⟨noNull, .inr ?_⟩
    rw [FileSystem.start, if_pos rooted, stopped]
  have asked := FileSystem.directory?_eq_error_iff.mpr ⟨rfl, refuses⟩
  refine ⟨by decide, by decide, by decide, by decide, laidOut, ?_⟩
  rw [readRecords, asked]
  rfl

end Provenance
