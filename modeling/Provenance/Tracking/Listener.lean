import Provenance.Event
import Provenance.Tracking.Persist

/-!
The listener that records why an artifact was resolved. It acts on resolved artifacts of the local
repository whose nearest collect step is about the artifact itself, and then writes one record.
-/
namespace Provenance

/-- The two questions that the listener asks about an event before it acts. -/
structure Filter where
  /-- Whether the artifact is one whose resolution is recorded at all. -/
  accepts : Event → Bool
  /-- Whether the event is about the node of the step. -/
  acceptsStep : Event → CollectStep → Bool

/-- The filter that is used unless another one is given: the artifact lies in the local repository,
and it has the identity of the node. -/
def Filter.standard : Filter where
  accepts event := event.repository.holds event.artifact
  acceptsStep event step := event.artifact.identity = step.node.artifact.identity

/-- Why an event was passed over. -/
inductive SkipReason where
  | notInRepository | noCollectStep | differentNode
  deriving DecidableEq, Repr

/-- A reason in words. -/
def SkipReason.text : SkipReason → String
  | .notInRepository => "not in local repository"
  | .noCollectStep => "no collect step"
  | .differentNode => "different node"

/-- What the listener did with an event. -/
inductive Outcome where
  | skipped (reason : SkipReason)
  | recorded (path : Path) (lines : List Wording)
  | failed (path : Path) (lines : List Wording) (error : Diagnostic)
  deriving Repr

namespace Outcome

/-- The outcome of an event that was passed over, with a report of the reason. -/
def skip (files : FileSystem) (artifact : Artifact) (reason : SkipReason) (why : String) :
    Effect (Except Failure Outcome) :=
  ⟨.ok (.skipped reason), files, [.debug .listener s!"Skipping {artifact.text}: {why}"]⟩

/-- The outcome of a write of the given lines for an artifact. -/
def ofPersisted (artifact : Artifact) (lines : List Wording)
    (written : Effect (Except Failure Persisted)) : Effect (Except Failure Outcome) :=
  match written.answer with
  | .error failure => ⟨.error failure, written.files, written.log⟩
  | .ok ⟨path, none⟩ =>
    ⟨.ok (.recorded path lines), written.files, written.log ++
      [.debug .listener s!"Recorded reverse tree for {artifact.text} in {path.text}"]⟩
  | .ok ⟨path, some error⟩ =>
    ⟨.ok (.failed path lines error), written.files, written.log ++
      [⟨.warning, .listener,
        s!"Reverse tree for {artifact.text} not recorded: {error.text}"⟩]⟩

end Outcome

/-- Records the chain behind an event, whatever its kind, if the filter lets it through. -/
def record (filter : Filter) (disk : Disk) (files : FileSystem) (event : Event) :
    Effect (Except Failure Outcome) :=
  let artifact := event.artifact
  if !filter.accepts event then
    Outcome.skip files artifact .notInRepository "not in local repository"
  else
    match event.trace.nearestStep? with
    | none => Outcome.skip files artifact .noCollectStep "no collect step in trace"
    | some step =>
      if !filter.acceptsStep event step then
        Outcome.skip files artifact .differentNode s!"collect step is for {step.node.text}"
      else
        match artifact.file with
        | none => ⟨.error .noFile, files, []⟩
        | some file =>
          Outcome.ofPersisted artifact step.lines
            (persist disk files file (.dependency step.root) step.lines)

/-- Takes an event as a dispatcher delivers it: other kinds than resolved artifacts are ignored,
and a record that could not be written is an error. -/
def deliver (filter : Filter) (disk : Disk) (files : FileSystem) (event : Event) :
    Effect (Except Failure (Option Outcome)) :=
  if event.kind ≠ .artifactResolved then ⟨.ok none, files, []⟩
  else
    let handled := record filter disk files event
    match handled.answer with
    | .error failure => ⟨.error failure, handled.files, handled.log⟩
    | .ok (.failed _ _ error) => ⟨.error (.diagnosed error), handled.files, handled.log⟩
    | .ok outcome => ⟨.ok (some outcome), handled.files, handled.log⟩

end Provenance
