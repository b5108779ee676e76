import Provenance.Proofs.Artifact.Layout
import Provenance.Proofs.FileSystem.Directory
import Provenance.Proofs.Tracking.Writing

/-!
Runs of events, and what one event does to the files (`record_acts`): it is passed over, or
directories are made, or the file of its record is opened at the artifact's own place. The history
of a run tells which files were opened, for which lines, and whether the last one that was opened
took all of them.
-/
namespace Provenance

/-! ## Runs -/

/-- An event together with the answer to it. -/
structure Handled where
  event : Event
  answer : Except Failure Outcome

/-- A file of a record that was opened: the artifact that the record is about, the name of the file,
the lines that it was opened for, and whether they came into it as a whole. -/
structure Opened where
  identity : Identity
  name : String
  lines : List Wording
  whole : Bool
  deriving DecidableEq, Repr

/-- Whether a diagnostic tells of a write that stopped in an open file. -/
def Diagnostic.tellsOfStop (d : Diagnostic) : Bool :=
  match d.cause with
  | some (.file (.stopped _)) => true
  | _ => false

/-- The file that was opened for an event, if one was. The answer tells: it was opened if the event
was recorded, if the write stopped in the open file, or if the lines turned out to have no bytes. -/
def Handled.opened? (handled : Handled) : Option Opened :=
  handled.event.trace.nearestStep?.bind fun step =>
    let opened (whole : Bool) : Opened := ⟨handled.event.artifact.identity,
      (RequestRoot.dependency step.root).fileName, step.lines, whole⟩
    match handled.answer with
    | .ok (.recorded _ _) => some (opened true)
    | .ok (.failed _ _ d) => if d.tellsOfStop then some (opened false) else none
    | .error (.unencodable _) => some (opened false)
    | _ => none

/-- A run: the events so far with their answers, and the files they left. -/
structure Run where
  history : List Handled
  files : FileSystem

/-- An event, and the disk that it meets. -/
abbrev Occasion := Disk × Event

namespace Run

/-- The run with one more event handled. -/
def handle (run : Run) (occasion : Occasion) : Run :=
  let handled := record .standard occasion.1 run.files occasion.2
  ⟨run.history ++ [⟨occasion.2, handled.answer⟩], handled.files⟩

/-- The run of events one after the other. -/
def through (fs : FileSystem) (occasions : List Occasion) : Run :=
  occasions.foldl handle ⟨[], fs⟩

/-- The files that were opened in a run, in the order of the events. -/
def opened (run : Run) : List Opened :=
  run.history.filterMap Handled.opened?

/-- The records that were written in a run, in the order of the events. -/
def written (run : Run) : List Opened :=
  run.opened.filter (·.whole)

end Run

/-- What was opened last for an artifact under a name. -/
def lastOpened? (opened : List Opened) (identity : Identity) (name : String) : Option Opened :=
  opened.reverse.find? fun o => o.identity = identity ∧ o.name = name

theorem lastOpened?_append (opened : List Opened) (o : Opened) (identity : Identity)
    (name : String) :
    lastOpened? (opened ++ [o]) identity name =
      if o.identity = identity ∧ o.name = name then some o
      else lastOpened? opened identity name := by
  unfold lastOpened?
  rw [List.reverse_append, List.reverse_singleton, List.singleton_append, List.find?_cons]
  split
  · rename_i same
    rw [if_pos (of_decide_eq_true same)]
  · rename_i other
    rw [if_neg (of_decide_eq_false other)]

/-- Something was opened last if anything was opened at all. -/
theorem exists_lastOpened?_iff {opened : List Opened} {identity : Identity} {name : String} :
    (∃ o, lastOpened? opened identity name = some o) ↔
      ∃ o ∈ opened, o.identity = identity ∧ o.name = name := by
  rw [← Option.isSome_iff_exists, lastOpened?, List.find?_isSome]
  simp

theorem mem_of_lastOpened? {opened : List Opened} {identity : Identity} {name : String} {o : Opened}
    (last : lastOpened? opened identity name = some o) :
    o ∈ opened ∧ o.identity = identity ∧ o.name = name := by
  have member := List.mem_of_find?_eq_some last
  have told := List.find?_some last
  exact ⟨List.mem_reverse.mp member, of_decide_eq_true told⟩

/-! ## Events -/

/-- A wording without slashes, NULs and line boundaries. -/
def Wording.IsPlain (w : Wording) : Prop :=
  ∀ c, .char c ∈ w → c ≠ '/' ∧ c ≠ '\x00' ∧ Text.isLineBoundary c = false

instance (w : Wording) : Decidable w.IsPlain :=
  inferInstanceAs (Decidable (∀ c, Mark.char c ∈ w → _))

/-- A step all texts of which are plain. -/
structure CollectStep.IsPlain (step : CollectStep) : Prop where
  context : step.context.IsPlain
  elements : ∀ element ∈ step.leafFirst, element.artifact.IsPlain

instance (step : CollectStep) : Decidable step.IsPlain :=
  decidable_of_iff
    (step.context.IsPlain ∧ ∀ element ∈ step.leafFirst, element.artifact.IsPlain)
    ⟨fun ⟨context, elements⟩ => ⟨context, elements⟩, fun plain => ⟨plain.context, plain.elements⟩⟩

/-- An event in a session on the repository `r` about an artifact that lies where the layout puts
it, with texts that are plain throughout. -/
structure Event.IsOf (r : Repository) (event : Event) : Prop where
  repository : event.repository = r
  file : event.artifact.file = some (r.pathOf event.artifact)
  laidOut : event.artifact.IsLaidOut
  plain : event.artifact.IsPlain
  step : ∀ step, event.trace.nearestStep? = some step → step.IsPlain

/-- A library, resolved in `/repo` because an application depends on it. -/
def libraryEvent : Event :=
  let app : Artifact := { group := "com.x", name := "app", version := "1.0" }
  let lib : Artifact := { group := "com.x", name := "lib", version := "2.0" }
  let repository : Repository := ⟨.ofText "/repo"⟩
  { kind := .artifactResolved
    repository
    artifact := { lib with file := some (repository.pathOf lib) }
    trace := [some (.collect ⟨"project", [⟨app, "compile"⟩], ⟨lib, "compile"⟩⟩)] }

theorem libraryEvent_isOf : libraryEvent.IsOf ⟨.ofText "/repo"⟩ := by
  refine ⟨rfl, by decide, by decide, by decide, fun step found => ?_⟩
  cases found
  decide

theorem CollectStep.root_mem_leafFirst (step : CollectStep) : step.root ∈ step.leafFirst := by
  unfold root leafFirst
  cases step.path <;> simp

theorem CollectStep.IsPlain.root {step : CollectStep} (plain : step.IsPlain) :
    step.root.artifact.IsPlain :=
  plain.elements _ step.root_mem_leafFirst

/-- No line of a plain step has a line boundary in it. -/
theorem CollectStep.IsPlain.lines {step : CollectStep} (plain : step.IsPlain) :
    ∀ line ∈ step.lines, ∀ c, .char c ∈ line → Text.isLineBoundary c = false := by
  intro line member c inside
  obtain ⟨level, bound, rfl⟩ := List.mem_mapIdx.mp member
  have element := (plain.elements _ (List.getElem_mem bound)).text
  simp only [indented, label, Dependency.text, List.mem_append, List.mem_replicate,
    Wording.char_mem_ofChars] at inside
  rcases inside with ⟨-, space⟩ | ((coordinates | opening) | context) | closing
  · cases space
    decide
  · exact (element c coordinates).2.2
  · revert opening
    simp +contextual [Text.isLineBoundary, or_imp]
  · exact (plain.context c context).2.2
  · revert closing
    simp +contextual [Text.isLineBoundary]

/-! ## What an event does -/

/-- The place that the base directory of a repository spells. -/
def Repository.place (r : Repository) : Location := FileSystem.spell [] r.base.parts

/-- The place of the records of an artifact. -/
def Repository.recordsAt (r : Repository) (a : Artifact) : Location :=
  r.place ++ a.directories ++ [trackingName]

namespace Repository

variable {r : Repository} {a : Artifact}

theorem trackingOf_isAbsolute (absolute : r.base.isAbsolute = true) (laidOut : a.IsLaidOut) :
    (r.trackingOf a).isAbsolute = true := by
  rw [trackingOf_eq laidOut]
  exact absolute

/-- The names on the way from the base directory to an artifact's records stand for themselves. -/
theorem names_of_laidOut (laidOut : a.IsLaidOut) :
    ∀ name ∈ a.directories ++ [trackingName], Path.isIdle name = false ∧ name ≠ ".." := by
  intro name member
  rcases List.mem_append.mp member with directory | tracking
  · exact ⟨(laidOut.directory directory).1.notIdle, (laidOut.directory directory).2.1⟩
  · rw [List.mem_singleton.mp tracking]
    decide

/-- The tracking directory of an artifact and what lies in it are spelled as one would expect. -/
theorem spell_trackingOf (laidOut : a.IsLaidOut) {more : List String}
    (plain : ∀ name ∈ more, Path.isIdle name = false ∧ name ≠ "..") :
    FileSystem.spell [] ((r.trackingOf a).parts ++ more) = r.recordsAt a ++ more := by
  have names : ∀ name ∈ a.directories ++ [trackingName] ++ more,
      Path.isIdle name = false ∧ name ≠ ".." := by
    intro name member
    rcases List.mem_append.mp member with inner | outer
    · exact names_of_laidOut laidOut name inner
    · exact plain name outer
  have whole : (r.trackingOf a).parts ++ more =
      r.base.parts ++ (a.directories ++ [trackingName] ++ more) := by
    simp [trackingOf_eq laidOut]
  rw [whole, FileSystem.spell_append, FileSystem.spell_names names, recordsAt, place]
  simp

/-- What a path in the tracking directory of an artifact leads to lies at the artifact's place. -/
theorem place_of_locate {fs : FileSystem} (linkFree : fs.NoLinks)
    (absolute : r.base.isAbsolute = true) (laidOut : a.IsLaidOut) (more : List String)
    (plain : ∀ name ∈ more, Path.isIdle name = false ∧ name ≠ "..") {follow : Bool}
    {d : FileSystem.Destination}
    (located : fs.locate follow { r.trackingOf a with parts := (r.trackingOf a).parts ++ more } =
      .ok d) : d.place = r.recordsAt a ++ more := by
  obtain ⟨_, _, leads⟩ := FileSystem.locate_eq_ok_iff.mp located
  have rooted : FileSystem.start fs
      { r.trackingOf a with parts := (r.trackingOf a).parts ++ more } = [] :=
    if_pos (trackingOf_isAbsolute absolute laidOut)
  rw [leads.place_eq linkFree, rooted]
  exact spell_trackingOf laidOut plain

/-- If a path in the tracking directory of an artifact leads anywhere, the tracking directory is
there. -/
theorem located_tracking {fs : FileSystem} (linkFree : fs.NoLinks)
    (absolute : r.base.isAbsolute = true) (laidOut : a.IsLaidOut) {name : String} {follow : Bool}
    {d : FileSystem.Destination}
    (located : fs.locate follow ((r.trackingOf a).entry name) = .ok d) :
    fs.locate true (r.trackingOf a) = .ok (.found (r.recordsAt a) .directory) := by
  obtain ⟨place, there⟩ := FileSystem.locate_above (.inl (trackingOf_isAbsolute absolute laidOut))
    (List.cons_ne_nil name []) located
  have same : place = r.recordsAt a := by
    simpa [FileSystem.Destination.place] using
      place_of_locate linkFree absolute laidOut [] (by simp) (by simpa using there)
  rw [← same]
  exact there

end Repository

/-- What an event of a repository does to the files, with the file of a record that is opened. -/
inductive Acts (r : Repository) (a : Artifact) (before : FileSystem) :
    FileSystem → Option Opened → Prop
  | passes {after : FileSystem} :
      FileSystem.Grows (before.Spelled (r.trackingOf a)) before after → Acts r a before after none
  | opens {grown : FileSystem} {name : String} {lines : List Wording} {whole : Bool}
      {content : List UInt8} :
      Path.IsPart name → name ≠ ".." → name ≠ trackingName →
      FileSystem.Grows (before.Spelled (r.trackingOf a)) before grown →
      content <+: Record.bytes lines →
      (whole = true → Record.decode content = .ok lines) →
      grown.Extends (grown.set (r.recordsAt a ++ [name]) (.file content)) →
      (grown.set (r.recordsAt a ++ [name]) (.file content)).locate true
          ((r.trackingOf a).entry name) =
        .ok (.found (r.recordsAt a ++ [name]) (.file content)) →
      Acts r a before (grown.set (r.recordsAt a ++ [name]) (.file content))
        (some ⟨a.identity, name, lines, whole⟩)

theorem Acts.extends {r : Repository} {a : Artifact} {before after : FileSystem}
    {new : Option Opened} (acted : Acts r a before after new) : before.Extends after := by
  cases acted with
  | passes grows => exact grows.extends
  | opens _ _ _ grows _ _ kept _ => exact grows.extends.trans kept

/-- What a write of a record opens, told by its answer. -/
def Persisted.opened? (opened : Bool → Opened) (answer : Except Failure Persisted) :
    Option Opened :=
  match answer with
  | .ok ⟨_, none⟩ => some (opened true)
  | .ok ⟨_, some d⟩ => if d.tellsOfStop then some (opened false) else none
  | .error (.unencodable _) => some (opened false)
  | _ => none

theorem Persisted.opened?_refused (opened : Bool → Opened) (code : ErrorCode) (verb : String)
    (target subject : Path) (e : FileError) (files : FileSystem) :
    Persisted.opened? opened (stopped code verb target subject (.refused e) files).answer =
      none := by
  cases e <;> rfl

/-- A write of a record beside an artifact's file. -/
theorem persist_acts {r : Repository} {a : Artifact} {disk : Disk} {files : FileSystem}
    {root : RequestRoot} {lines : List Wording} (absolute : r.base.isAbsolute = true)
    (linkFree : files.NoLinks) (laidOut : a.IsLaidOut) (plain : a.IsPlain)
    (name : Path.IsPart root.fileName) (notUp : root.fileName ≠ "..")
    (notTracking : root.fileName ≠ trackingName)
    (whole : ∀ line ∈ lines, ∀ c, .char c ∈ line → Text.isLineBoundary c = false) :
    Acts r a files (persist disk files (r.pathOf a) root lines).files
      (Persisted.opened? (⟨a.identity, root.fileName, lines, ·⟩)
        (persist disk files (r.pathOf a) root lines).answer) := by
  have target := Repository.recordPath_pathOf (r := r) plain name
  have grows : FileSystem.Grows (files.Spelled (r.trackingOf a)) files
      (files.makeDirectories disk (recordPath (r.pathOf a) root).parent).2 := by
    have parent : ((r.trackingOf a).entry root.fileName).parent = r.trackingOf a := by
      simp [Path.parent, Path.entry]
    rw [target, parent]
    exact FileSystem.makeDirectories_grows_spelled disk linkFree _
  -- Where the file is opened, it is that of the name in the artifact's own tracking directory.
  have opens : ∀ {grown place content} (kind : Bool),
      files.makeDirectories disk (recordPath (r.pathOf a) root).parent = (none, grown) →
      grown.openPlace disk (recordPath (r.pathOf a) root) = .ok place →
      content <+: Record.bytes lines →
      (kind = true → Record.decode content = .ok lines) →
      Acts r a files (grown.set place (.file content))
        (some ⟨a.identity, root.fileName, lines, kind⟩) := by
    intro grown place content kind made opened part decoded
    rw [made] at grows
    have noLinks := grows.noLinks linkFree
    obtain ⟨_, kept, located⟩ := FileSystem.openPlace_eq noLinks.followsLinks opened content
    rw [target] at located
    have same : place = r.recordsAt a ++ [root.fileName] :=
      Repository.place_of_locate (noLinks.set place (rfl : (Entry.file content).isLink = false))
        absolute laidOut [root.fileName] (by simpa using ⟨name.notIdle, notUp⟩) located
    subst same
    exact .opens name notUp notTracking grows part decoded kept located
  have goes := persist_goes disk files (r.pathOf a) root lines
  generalize persist disk files (r.pathOf a) root lines = effect at goes
  cases goes with
  | unmade made =>
    rw [made] at grows
    rw [Persisted.opened?_refused, Persisted.stopped_files]
    exact .passes grows
  | unopened made =>
    rw [made] at grows
    rw [Persisted.opened?_refused, Persisted.stopped_files]
    exact .passes grows
  | stopped made opened => exact opens false made opened (Disk.part_prefix _ _ _) (by simp)
  | unencodable made opened => exact opens false made opened (List.nil_prefix) (by simp)
  | written made opened _ encodable =>
    exact opens true made opened (List.prefix_refl _) fun _ => Record.decode_bytes encodable whole

theorem ofPersisted_files (artifact : Artifact) (lines : List Wording)
    (effect : Effect (Except Failure Persisted)) :
    (Outcome.ofPersisted artifact lines effect).files = effect.files := by
  unfold Outcome.ofPersisted
  split <;> rfl

theorem opened?_ofPersisted {event : Event} {step : CollectStep}
    (found : event.trace.nearestStep? = some step) (effect : Effect (Except Failure Persisted)) :
    Handled.opened? ⟨event, (Outcome.ofPersisted event.artifact step.lines effect).answer⟩ =
      Persisted.opened? (⟨event.artifact.identity, (RequestRoot.dependency step.root).fileName,
        step.lines, ·⟩) effect.answer := by
  obtain ⟨answer, files, log⟩ := effect
  rcases answer with failure | ⟨path, _ | d⟩
  · cases failure <;> simp [Outcome.ofPersisted, Handled.opened?, Persisted.opened?, found]
  · simp [Outcome.ofPersisted, Handled.opened?, Persisted.opened?, found]
  · simp [Outcome.ofPersisted, Handled.opened?, Persisted.opened?, found]

/-- What the listener does keeps a tree. -/
theorem isTree_record {filter : Filter} {disk : Disk} {files : FileSystem} (tree : files.IsTree)
    (event : Event) : (record filter disk files event).files.IsTree := by
  unfold record
  dsimp only
  split
  · exact tree
  · split
    · exact tree
    · split
      · exact tree
      · split
        · exact tree
        · rw [ofPersisted_files]
          exact isTree_persist tree _ _ _ _

/-- Nothing is opened for an event that is passed over. -/
theorem opened?_skip (event : Event) (files : FileSystem) (reason : SkipReason) (why : String) :
    Handled.opened? ⟨event, (Outcome.skip files event.artifact reason why).answer⟩ = none := by
  unfold Handled.opened? Outcome.skip
  cases event.trace.nearestStep? <;> rfl

/-- The listener passes over an event of a repository, or makes directories on the way to the
artifact's records, or opens the file of one of these records; the history tells which. -/
theorem record_acts {r : Repository} {event : Event} (of : event.IsOf r)
    (absolute : r.base.isAbsolute = true) (disk : Disk) {files : FileSystem}
    (linkFree : files.NoLinks) :
    Acts r event.artifact files (record .standard disk files event).files
      (Handled.opened? ⟨event, (record .standard disk files event).answer⟩) := by
  unfold record
  dsimp only
  split
  · rw [opened?_skip]
    exact .passes .nothing
  · split
    · rw [opened?_skip]
      exact .passes .nothing
    · rename_i step found
      split
      · rw [opened?_skip]
        exact .passes .nothing
      · have plain := of.step step found
        have named : (RequestRoot.dependency step.root).text = step.root.artifact.text := rfl
        have name := fileName_part named plain.root.text.noSlash
        simp only [of.file]
        rw [ofPersisted_files, opened?_ofPersisted found]
        exact persist_acts absolute linkFree of.laidOut of.plain name.1 name.2.1 name.2.2
          plain.lines

end Provenance
