import Provenance.Proofs.FileSystem.Attempt
import Provenance.Proofs.Tracking.History

/-!
When the listener acts. Four questions are asked of an event, in a fixed order, and the first one
answered no decides (`Event.Judged`). If all are answered yes, what the listener does to the files
is one write of the record of the innermost collect step; otherwise it does nothing to them
(`deliver_follows`). A file that is opened for lines without bytes is left empty, and no diagnostic
tells of it.
-/
namespace Provenance

/-! ## The innermost step -/

/-- The step is the one of the innermost scope that carries a collect step. -/
def Trace.Innermost (trace : Trace) (step : CollectStep) : Prop :=
  ∃ inner outer, trace = inner ++ some (.collect step) :: outer ∧
    ∀ other, some (.collect other) ∉ inner

theorem Payload.step?_eq_some_iff {payload : Option Payload} {step : CollectStep} :
    Payload.step? payload = some step ↔ payload = some (.collect step) := by
  unfold step?
  split <;> simp_all

theorem Payload.step?_eq_none_iff {payload : Option Payload} :
    Payload.step? payload = none ↔ ∀ step, payload ≠ some (.collect step) := by
  rw [Option.eq_none_iff_forall_ne_some]
  exact forall_congr' fun step => not_congr step?_eq_some_iff

theorem Trace.nearestStep?_eq_some_iff {trace : Trace} {step : CollectStep} :
    trace.nearestStep? = some step ↔ trace.Innermost step := by
  unfold nearestStep? Innermost
  rw [List.findSome?_eq_some_iff]
  constructor
  · intro ⟨inner, payload, outer, split, found, passed⟩
    rw [Payload.step?_eq_some_iff] at found
    subst found
    refine ⟨inner, outer, split, fun other member => ?_⟩
    exact Payload.step?_eq_none_iff.mp (passed _ member) other rfl
  · intro ⟨inner, outer, split, free⟩
    refine ⟨inner, some (.collect step), outer, split, rfl, fun payload member => ?_⟩
    rw [Payload.step?_eq_none_iff]
    intro other same
    exact free other (same ▸ member)

theorem Trace.nearestStep?_eq_none_iff {trace : Trace} :
    trace.nearestStep? = none ↔ ∀ step, some (.collect step) ∉ trace := by
  unfold nearestStep?
  rw [List.findSome?_eq_none_iff]
  constructor
  · intro none step member
    exact Payload.step?_eq_none_iff.mp (none _ member) step rfl
  · intro free payload member
    rw [Payload.step?_eq_none_iff]
    intro step same
    exact free step (same ▸ member)

/-! ## The questions -/

/-- The artifact has a file, whose normalized text begins with that of the base directory. -/
def Event.InRepository (event : Event) (file : Path) : Prop :=
  event.artifact.file = some file ∧
    event.repository.base.normalize.text.toList <+: file.normalize.text.toList

theorem accepts_iff {event : Event} :
    Filter.standard.accepts event = true ↔ ∃ file, event.InRepository file := by
  cases held : event.artifact.file with
  | none => simp [Filter.standard, Repository.holds, Event.InRepository, held]
  | some file =>
    simp [Filter.standard, Repository.holds, Event.InRepository, held, Path.startsAt]

/-- What is to be done about an event. -/
inductive Verdict where
  | ignored
  | passedOver (reason : SkipReason)
  /-- The chain of the step is recorded beside the file. -/
  | recordedFor (file : Path) (step : CollectStep)

/-- The questions about an event, in their order. The first one that is answered no decides. -/
inductive Event.Judged (event : Event) : Verdict → Prop
  | otherKind : event.kind ≠ .artifactResolved → Judged event .ignored
  | outside : event.kind = .artifactResolved → (∀ file, ¬event.InRepository file) →
      Judged event (.passedOver .notInRepository)
  | noStep {file : Path} : event.kind = .artifactResolved → event.InRepository file →
      (∀ step, some (.collect step) ∉ event.trace) → Judged event (.passedOver .noCollectStep)
  | otherNode {file : Path} {step : CollectStep} : event.kind = .artifactResolved →
      event.InRepository file → event.trace.Innermost step →
      event.artifact.identity ≠ step.node.artifact.identity →
      Judged event (.passedOver .differentNode)
  | ownNode {file : Path} {step : CollectStep} : event.kind = .artifactResolved →
      event.InRepository file → event.trace.Innermost step →
      event.artifact.identity = step.node.artifact.identity →
      Judged event (.recordedFor file step)

/-- The questions have an answer for every event. -/
theorem Event.exists_judged (event : Event) : ∃ verdict, event.Judged verdict := by
  by_cases kind : event.kind = .artifactResolved
  · by_cases inside : ∃ file, event.InRepository file
    · obtain ⟨file, inside⟩ := inside
      cases found : event.trace.nearestStep? with
      | none => exact ⟨_, .noStep kind inside (Trace.nearestStep?_eq_none_iff.mp found)⟩
      | some step =>
        have innermost := Trace.nearestStep?_eq_some_iff.mp found
        by_cases same : event.artifact.identity = step.node.artifact.identity
        · exact ⟨_, .ownNode kind inside innermost same⟩
        · exact ⟨_, .otherNode kind inside innermost same⟩
    · exact ⟨_, .outside kind (not_exists.mp inside)⟩
  · exact ⟨_, .otherKind kind⟩

/-- There is only one verdict on an event. -/
theorem Event.Judged.unique {event : Event} {verdict other : Verdict}
    (first : event.Judged verdict) (second : event.Judged other) : verdict = other := by
  cases first <;> cases second <;>
    simp_all [InRepository, ← Trace.nearestStep?_eq_some_iff, ← Trace.nearestStep?_eq_none_iff]

theorem Event.existsUnique_judged (event : Event) : ∃! verdict, event.Judged verdict := by
  obtain ⟨verdict, judged⟩ := event.exists_judged
  exact ⟨verdict, judged, fun _ other => (judged.unique other).symm⟩

/-! ## What is done -/

/-- The file of a record is opened for lines that have no bytes. -/
def Strands (disk : Disk) (files : FileSystem) (file : Path) (root : RequestRoot)
    (lines : List Wording) : Prop :=
  let target := recordPath file root
  ¬Record.Encodable lines ∧ (files.makeDirectories disk target.parent).1 = none ∧
    (files.makeDirectories disk target.parent).2.CanOpen disk target

/-- What the listener does to the files and answers, by the verdict on the event. A record that
could not be written is an error, and a diagnostic unless the record is stranded. -/
def Verdict.Followed (disk : Disk) (files : FileSystem)
    (effect : Effect (Except Failure (Option Outcome))) : Verdict → Prop
  | .ignored => effect.answer = .ok none ∧ effect.files = files
  | .passedOver reason => effect.answer = .ok (some (.skipped reason)) ∧ effect.files = files
  | .recordedFor file step =>
    let target := recordPath file (.dependency step.root)
    let written := persist disk files file (.dependency step.root) step.lines
    effect.files = written.files ∧
      (¬Strands disk files file (.dependency step.root) step.lines →
        written.answer = .ok ⟨target, none⟩ ∧
            effect.answer = .ok (some (.recorded target step.lines)) ∨
          ∃ error, written.answer = .ok ⟨target, some error⟩ ∧
            effect.answer = .error (.diagnosed error) ∧
            (error.code = .trackingDirectoryFailed ∨ error.code = .trackingWriteFailed)) ∧
      (Strands disk files file (.dependency step.root) step.lines →
        ∃ fault place, effect.answer = .error (.unencodable fault) ∧
          (files.makeDirectories disk target.parent).2.openPlace disk target = .ok place ∧
          effect.files = (files.makeDirectories disk target.parent).2.set place (.file []))

/-- An event that is passed over, or of another kind, leaves the files alone. -/
theorem deliver_of_passedOver (disk : Disk) (files : FileSystem) (event : Event) :
    (event.Judged .ignored →
        (deliver .standard disk files event).answer = .ok none ∧
          (deliver .standard disk files event).files = files) ∧
      ∀ reason, event.Judged (.passedOver reason) →
        (deliver .standard disk files event).answer = .ok (some (.skipped reason)) ∧
          (deliver .standard disk files event).files = files := by
  constructor
  · intro judged
    cases judged with
    | otherKind kind => simp [deliver, kind]
  · intro reason judged
    cases judged with
    | outside kind outside =>
      have refused : Filter.standard.accepts event = false := by
        rw [← Bool.not_eq_true, accepts_iff]
        exact not_exists.mpr outside
      simp [deliver, kind, record, refused, Outcome.skip]
    | noStep kind inside free =>
      have accepted := accepts_iff.mpr ⟨_, inside⟩
      have found := Trace.nearestStep?_eq_none_iff.mpr free
      simp [deliver, kind, record, accepted, found, Outcome.skip]
    | @otherNode file step kind inside innermost other =>
      have accepted := accepts_iff.mpr ⟨_, inside⟩
      have found := Trace.nearestStep?_eq_some_iff.mpr innermost
      have refused : Filter.standard.acceptsStep event step = false := decide_eq_false other
      simp [deliver, kind, record, accepted, found, refused, Outcome.skip]

/-- If all questions are answered yes, the files are left as the write of the record leaves them,
and the answer tells how the write ended. -/
theorem deliver_of_recordedFor (disk : Disk) (files : FileSystem) {event : Event} {file : Path}
    {step : CollectStep} (judged : event.Judged (.recordedFor file step)) :
    let written := persist disk files file (.dependency step.root) step.lines
    (deliver .standard disk files event).files = written.files ∧
      (deliver .standard disk files event).answer =
        match written.answer with
        | .error failure => .error failure
        | .ok ⟨path, none⟩ => .ok (some (.recorded path step.lines))
        | .ok ⟨_, some error⟩ => .error (.diagnosed error) := by
  cases judged with
  | ownNode kind inside innermost same =>
    have accepted := accepts_iff.mpr ⟨_, inside⟩
    have found := Trace.nearestStep?_eq_some_iff.mpr innermost
    have agreed : Filter.standard.acceptsStep event step = true := decide_eq_true same
    unfold deliver record
    simp only [kind, accepted, found, agreed, inside.1]
    generalize persist disk files file (.dependency step.root) step.lines = written
    obtain ⟨answer, left, log⟩ := written
    rcases answer with failure | ⟨path, _ | error⟩ <;> simp [Outcome.ofPersisted]

/-- A record is stranded exactly if its write fails because the lines have no bytes. -/
theorem persist_of_strands (disk : Disk) {files : FileSystem} {file : Path} {root : RequestRoot}
    {lines : List Wording} (strands : Strands disk files file root lines) :
    ∃ fault place, (persist disk files file root lines).answer = .error (.unencodable fault) ∧
      (files.makeDirectories disk (recordPath file root).parent).2.openPlace disk
        (recordPath file root) = .ok place ∧
      (persist disk files file root lines).files =
        (files.makeDirectories disk (recordPath file root).parent).2.set place (.file []) := by
  obtain ⟨unencodable, well, opens⟩ := strands
  have goes := persist_goes disk files file root lines
  generalize persist disk files file root lines = effect at goes
  cases goes with
  | unmade made =>
    rw [made] at well
    cases well
  | unopened made refused =>
    rw [made, FileSystem.canOpen_iff] at opens
    obtain ⟨place, opened⟩ := opens
    cases opened.symm.trans refused
  | stopped made opened stops =>
    obtain ⟨fault, refused⟩ := Record.encode_eq_error_iff.mpr unencodable
    rw [Record.bytes_of_error refused, Disk.stops_nil] at stops
    cases stops
  | @unencodable grown place fault made opened refused =>
    rw [made]
    exact ⟨fault, place, rfl, opened, rfl⟩
  | written made opened stops encodable => exact absurd encodable unencodable

theorem strands_of_unencodable {disk : Disk} {files : FileSystem} {file : Path}
    {root : RequestRoot} {lines : List Wording} {fault : Text.EncodeFault}
    (failed : (persist disk files file root lines).answer = .error (.unencodable fault)) :
    Strands disk files file root lines := by
  have goes := persist_goes disk files file root lines
  generalize persist disk files file root lines = effect at goes failed
  cases goes with
  | @unmade e | @unopened e => cases e <;> cases failed
  | stopped | written => cases failed
  | @unencodable grown place fault made opened refused =>
    refine ⟨Record.encode_eq_error_iff.mp ⟨_, refused⟩, by rw [made], ?_⟩
    rw [made]
    exact FileSystem.canOpen_iff.mpr ⟨place, opened⟩

/-- What the listener does about an event is told by the first question that is answered no: it
ignores the event or passes it over, and leaves the files alone. If all are answered yes, it does to
the files one write of the record of the innermost step, and answers as that write ended: the record
is written, or a diagnostic tells why it is not, unless its file was opened for lines that have no
bytes. -/
theorem deliver_follows (disk : Disk) (files : FileSystem) (event : Event)
    (plainFile : ∀ file, event.artifact.file = some file → '\x00' ∉ file.text.toList)
    (plainRoot : ∀ step, event.trace.Innermost step →
      ∀ field ∈ step.root.artifact.coordinates, '\x00' ∉ field.toList) :
    (∃! verdict, event.Judged verdict) ∧
      ∀ verdict, event.Judged verdict →
        verdict.Followed disk files (deliver .standard disk files event) := by
  refine ⟨event.existsUnique_judged, fun verdict judged => ?_⟩
  cases verdict with
  | ignored => exact (deliver_of_passedOver disk files event).1 judged
  | passedOver reason => exact (deliver_of_passedOver disk files event).2 reason judged
  | recordedFor file step =>
    obtain ⟨left, answered⟩ := deliver_of_recordedFor disk files judged
    have noNull : '\x00' ∉ (recordPath file (.dependency step.root)).text.toList := by
      cases judged with
      | ownNode kind inside innermost same =>
        apply recordPath_noNull (plainFile file inside.1)
        have fields := (Artifact.forall_fields_iff (by decide) (by decide) step.root.artifact).mp
          (plainRoot step innermost)
        intro null
        obtain ⟨field, member, held⟩ := (Text.mem_ofFields_iff (by decide)).mp null
        exact fields field member held
    refine ⟨left, fun kept => ?_, fun strands => ?_⟩
    · have ended := persist_ended disk files file (.dependency step.root) step.lines
      generalize written : (persist disk files file (.dependency step.root) step.lines).answer =
        ending at ended answered
      cases ended with
      | well => exact .inl ⟨rfl, answered⟩
      | noDirectory fault path => exact .inr ⟨_, rfl, answered, .inl rfl⟩
      | notWritten fault looked => exact .inr ⟨_, rfl, answered, .inr rfl⟩
      | unencodable fault refused => exact absurd (strands_of_unencodable written) kept
      | null null => exact absurd null noNull
    · obtain ⟨fault, place, failed, opened, emptied⟩ := persist_of_strands disk strands
      rw [failed] at answered
      exact ⟨fault, place, answered, opened, left.trans emptied⟩

/-- A library that is resolved below the collection of its own node, in a scope that carries no
step. That the outer scope carries a step about another node does not matter. -/
theorem deliver_follows_nested :
    let app : Artifact := { group := "com.x", name := "app", version := "1.0" }
    let lib : Artifact := { group := "com.x", name := "lib", version := "2.0" }
    let step : CollectStep := ⟨"compile", [⟨app, "compile"⟩], ⟨lib, "compile"⟩⟩
    let file := Path.ofText "/repo/com/x/lib/2.0/lib-2.0.jar"
    let event : Event :=
      { kind := .artifactResolved
        repository := ⟨.ofText "/repo"⟩
        artifact := { lib with extension := "pom", file := some file }
        trace := [some (.descriptor lib), some (.collect step), none,
          some (.collect ⟨"compile", [], ⟨app, "compile"⟩⟩)] }
    event.Judged (.recordedFor file step) ∧
      (Verdict.recordedFor file step).Followed .ample ⟨[], []⟩
        (deliver .standard .ample ⟨[], []⟩ event) := by
  intro app lib step file event
  have innermost : event.trace.Innermost step :=
    ⟨[some (.descriptor lib)], [none, some (.collect ⟨"compile", [], ⟨app, "compile"⟩⟩)], rfl,
      by simp⟩
  have judged : event.Judged (.recordedFor file step) :=
    .ownNode rfl ⟨rfl, by decide⟩ innermost rfl
  refine ⟨judged, (deliver_follows .ample ⟨[], []⟩ event ?_ ?_).2 _ judged⟩
  · intro other held
    cases held
    decide
  · intro other found
    have same := Trace.nearestStep?_eq_some_iff.mpr found
    rw [Trace.nearestStep?_eq_some_iff.mpr innermost] at same
    cases same
    decide

/-- Where a surrogate stands alone in the context of a step, the record that was there is lost, and
no diagnostic tells of it. -/
theorem deliver_strands :
    let lib : Artifact := { group := "g", name := "a", version := "1" }
    let files : FileSystem := ⟨[([".tracking"], .directory),
      ([".tracking", "g_a_1"], .file (Record.bytes ["old"]))], []⟩
    let event : Event :=
      { kind := .artifactResolved
        repository := ⟨.ofText "/"⟩
        artifact := { lib with file := some ⟨.slash, ["lib.jar"]⟩ }
        trace := [some (.collect ⟨[.lone 0], [], ⟨lib, ""⟩⟩)] }
    let effect := deliver .standard .ample files event
    effect.answer = .error (.unencodable ⟨"utf-8", 7, [0xD800], "surrogates not allowed"⟩) ∧
      effect.files.lookup [".tracking", "g_a_1"] = some (.file []) := by
  intro lib files event effect
  let file : Path := ⟨.slash, ["lib.jar"]⟩
  let step : CollectStep := ⟨[.lone 0], [], ⟨lib, ""⟩⟩
  have judged : event.Judged (.recordedFor file step) :=
    .ownNode rfl ⟨rfl, by decide⟩ ⟨[], [], rfl, by simp⟩ rfl
  obtain ⟨left, answered⟩ := deliver_of_recordedFor .ample files judged
  have target : recordPath file (.dependency step.root) = ⟨.slash, [".tracking", "g_a_1"]⟩ := by
    decide
  obtain ⟨made, opened⟩ :
      files.makeDirectories .ample (recordPath file (.dependency step.root)).parent =
          (none, files) ∧
        files.openPlace .ample (recordPath file (.dependency step.root)) =
          .ok [".tracking", "g_a_1"] := by
    rw [target]
    exact FileSystem.Clear.opens (by decide) (FileSystem.isTree_iff.mpr (by decide)) (by decide)
      rfl (by decide) (by decide) (by decide) rfl nofun fun _ => rfl
  have written : persist .ample files file (.dependency step.root) step.lines =
      ⟨.error (.unencodable ⟨"utf-8", 7, [0xD800], "surrogates not allowed"⟩),
        files.set [".tracking", "g_a_1"] (.file []), []⟩ := by
    have encoded : Record.encode step.lines =
        .error ⟨"utf-8", 7, [0xD800], "surrogates not allowed"⟩ := by decide
    have bytes := Record.bytes_of_error encoded
    simp only [persist, made, FileSystem.write, opened, encoded, bytes, Disk.stops_nil,
      Disk.part, List.take_nil]
    rfl
  rw [written] at left answered
  exact ⟨answered, by rw [left]; rfl⟩

end Provenance
