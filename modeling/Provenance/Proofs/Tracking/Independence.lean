import Provenance.Proofs.Tracking.Gates

/-!
What a record depends on. Of a trace the listener reads the innermost collect step, and of that step
its context, the identity of its node and the coordinates of its elements. Of the artifact it reads
the identity and the file. Two events that agree in these come to the same outcome and leave the
same files, whatever else their traces and their artifacts say (`record_agrees`).
-/
namespace Provenance

/-- Two runs of one operation that differ in their reports at most. -/
def Effect.Agrees {α : Type} (effect other : Effect α) : Prop :=
  effect.answer = other.answer ∧ effect.files = other.files

/-! ## Steps -/

/-- Two steps with one context, whose nodes have the same identity, and whose elements show the same
coordinates one by one. -/
structure CollectStep.Alike (step other : CollectStep) : Prop where
  context : step.context = other.context
  identity : step.node.artifact.identity = other.node.artifact.identity
  node : step.node.text = other.node.text
  path : step.path.map Dependency.text = other.path.map Dependency.text

namespace CollectStep

/-- The lines of a step are made of the coordinates of its elements and of its context. -/
theorem lines_eq (step : CollectStep) :
    step.lines = (step.leafFirst.map Dependency.text).mapIdx fun level (coordinates : String) =>
      indented level (coordinates ++ " (" ++ step.context ++ ")" : Wording) := by
  apply List.ext_getElem?
  intro level
  simp [lines, label, Function.comp_def]

/-- The coordinates of the root are the first ones of the path, or those of the node. -/
theorem text_root (step : CollectStep) :
    step.root.text = (step.path.map Dependency.text).headD step.node.text := by
  cases path : step.path <;> simp [root, path]

variable {step other : CollectStep}

theorem Alike.leafFirst (alike : step.Alike other) :
    step.leafFirst.map Dependency.text = other.leafFirst.map Dependency.text := by
  simp only [CollectStep.leafFirst, List.map_cons, List.map_reverse, alike.node, alike.path]

theorem Alike.lines (alike : step.Alike other) : step.lines = other.lines := by
  rw [lines_eq, lines_eq, alike.leafFirst, alike.context]

theorem Alike.root (alike : step.Alike other) : step.root.text = other.root.text := by
  rw [text_root, text_root, alike.path, alike.node]

/-- The step without the scopes that its elements are declared with. -/
def unscoped (step : CollectStep) : CollectStep :=
  { step with
    path := step.path.map fun ancestor => { ancestor with scope := "" }
    node := { step.node with scope := "" } }

/-- The scopes that elements are declared with are not shown. -/
theorem alike_unscoped (step : CollectStep) : step.Alike step.unscoped where
  context := rfl
  identity := rfl
  node := rfl
  path := by
    rw [unscoped, List.map_map]
    rfl

end CollectStep

/-! ## Traces -/

/-- Two traces without a collect step, or with alike innermost ones. -/
inductive Trace.Alike (trace other : Trace) : Prop
  | free : (∀ step, some (.collect step) ∉ trace) → (∀ step, some (.collect step) ∉ other) →
      Alike trace other
  | innermost {step twin : CollectStep} : trace.Innermost step → other.Innermost twin →
      step.Alike twin → Alike trace other

/-- Scopes inside the innermost step that carry no collect step, and all that is outside it, may be
left out. -/
theorem Trace.Innermost.alike_alone {trace : Trace} {step twin : CollectStep}
    (innermost : trace.Innermost step) (alike : step.Alike twin) :
    trace.Alike [some (.collect twin)] :=
  .innermost innermost ⟨[], [], rfl, by simp⟩ alike

/-! ## Records -/

/-- A record is named for the coordinates of its root, so roots with the same ones share it. -/
theorem persist_of_sameText (disk : Disk) (files : FileSystem) (file : Path)
    {root other : Dependency} (same : root.text = other.text) (lines : List Wording) :
    persist disk files file (.dependency root) lines =
      persist disk files file (.dependency other) lines := by
  have path : recordPath file (.dependency root) = recordPath file (.dependency other) := by
    simp only [recordPath, RequestRoot.fileName, RequestRoot.text, same]
  rw [persist, persist, path]

/-- What is said about a write does not depend on the artifact that it was made for. -/
theorem Outcome.ofPersisted_agrees (artifact other : Artifact) (lines : List Wording)
    (written : Effect (Except Failure Persisted)) :
    (ofPersisted artifact lines written).Agrees (ofPersisted other lines written) := by
  obtain ⟨answer, files, log⟩ := written
  rcases answer with failure | ⟨path, _ | error⟩ <;> exact ⟨rfl, rfl⟩

/-- Whether an event is about a file of the repository is told from the base directory and the file
alone. -/
theorem accepts_eq {event other : Event} (base : event.repository.base = other.repository.base)
    (file : event.artifact.file = other.artifact.file) :
    Filter.standard.accepts event = Filter.standard.accepts other := by
  rw [Bool.eq_iff_iff, accepts_iff, accepts_iff]
  simp only [Event.InRepository, base, file]

/-- The second question compares identities, which alike steps share. -/
theorem acceptsStep_eq {event other : Event} {step twin : CollectStep}
    (identity : event.artifact.identity = other.artifact.identity) (alike : step.Alike twin) :
    Filter.standard.acceptsStep event step = Filter.standard.acceptsStep other twin := by
  simp only [Filter.standard, identity, alike.identity]

/-- Of an event only the base directory, the file and the identity of its artifact, and the
innermost step of its trace matter. -/
theorem record_agrees_of_alike (disk : Disk) (files : FileSystem) {event other : Event}
    (base : event.repository.base = other.repository.base)
    (file : event.artifact.file = other.artifact.file)
    (identity : event.artifact.identity = other.artifact.identity)
    (trace : event.trace.Alike other.trace) :
    (record .standard disk files event).Agrees (record .standard disk files other) := by
  have accepts := accepts_eq base file
  unfold record
  cases accepted : Filter.standard.accepts other with
  | false =>
    rw [accepted] at accepts
    simp only [accepts, Bool.not_false, ↓reduceIte]
    exact ⟨rfl, rfl⟩
  | true =>
    rw [accepted] at accepts
    simp only [accepts, Bool.not_true, Bool.false_eq_true, ↓reduceIte]
    cases trace with
    | free one two =>
      simp only [Trace.nearestStep?_eq_none_iff.mpr one, Trace.nearestStep?_eq_none_iff.mpr two]
      exact ⟨rfl, rfl⟩
    | @innermost step twin one two alike =>
      simp only [Trace.nearestStep?_eq_some_iff.mpr one, Trace.nearestStep?_eq_some_iff.mpr two,
        acceptsStep_eq identity alike, file]
      split
      · exact ⟨rfl, rfl⟩
      · cases other.artifact.file with
        | none => exact ⟨rfl, rfl⟩
        | some file =>
          simp only [alike.lines, persist_of_sameText disk files file alike.root]
          exact Outcome.ofPersisted_agrees _ _ _ _

/-- Two events on one base directory, about artifacts with one file and one identity, come to the
same outcome and leave the same files if both traces are without a collect step, or if their
innermost steps are alike. So an event may be cut down to its innermost step: scopes without a
collect step inside it, whatever is outside it, the scopes that dependencies are declared with, and
the extension and the classifier of the artifact make no difference. -/
theorem record_agrees (disk : Disk) (files : FileSystem) (event : Event) :
    (∀ other : Event, event.repository.base = other.repository.base →
        event.artifact.file = other.artifact.file →
        event.artifact.identity = other.artifact.identity →
        event.trace.Alike other.trace →
        (record .standard disk files event).Agrees (record .standard disk files other)) ∧
      ∀ (inner outer : Trace) (step : CollectStep),
        event.trace = inner ++ some (.collect step) :: outer →
        (∀ nearer, some (.collect nearer) ∉ inner) →
        ∀ extension classifier : String,
          (record .standard disk files event).Agrees
            (record .standard disk files
              { event with
                artifact := { event.artifact with extension, classifier }
                trace := [some (.collect step.unscoped)] }) := by
  refine ⟨fun other => record_agrees_of_alike disk files, ?_⟩
  intro inner outer step split free extension classifier
  have innermost : event.trace.Innermost step := ⟨inner, outer, split, free⟩
  exact record_agrees_of_alike disk files rfl rfl rfl (innermost.alike_alone step.alike_unscoped)

/-- A library that is resolved as a plain file in the scope of its step, and as sources in a scope
inside one, where its root is declared with another scope and another collection goes on outside. -/
theorem record_agrees_nested :
    let app : Artifact := { group := "com.x", name := "app", version := "1.0" }
    let lib : Artifact := { group := "com.x", name := "lib", version := "2.0" }
    let file := Path.ofText "/repo/com/x/lib/2.0/lib-2.0.jar"
    let event : Event :=
      { kind := .artifactResolved
        repository := ⟨.ofText "/repo"⟩
        artifact := { lib with file := some file }
        trace := [some (.collect ⟨"compile", [⟨app, "compile"⟩], ⟨lib, "compile"⟩⟩)] }
    let other : Event :=
      { event with
        artifact := { lib with classifier := "sources", file := some file }
        trace := [some (.descriptor lib), none,
          some (.collect ⟨"compile", [⟨app, "test"⟩], ⟨lib, "runtime"⟩⟩), some .other,
          some (.collect ⟨"runtime", [], ⟨app, "test"⟩⟩)] }
    event.trace.Alike other.trace ∧
      (record .standard .ample ⟨[], []⟩ event).Agrees (record .standard .ample ⟨[], []⟩ other) := by
  intro app lib file event other
  let step : CollectStep := ⟨"compile", [⟨app, "compile"⟩], ⟨lib, "compile"⟩⟩
  let twin : CollectStep := ⟨"compile", [⟨app, "test"⟩], ⟨lib, "runtime"⟩⟩
  have here : event.trace.Innermost step := ⟨[], [], rfl, by simp⟩
  have there : other.trace.Innermost twin :=
    ⟨[some (.descriptor lib), none], [some .other, some (.collect ⟨"runtime", [], ⟨app, "test"⟩⟩)],
      rfl, by simp⟩
  have alike : event.trace.Alike other.trace := .innermost here there ⟨rfl, rfl, rfl, rfl⟩
  exact ⟨alike, (record_agrees .ample ⟨[], []⟩ event).1 other rfl rfl rfl alike⟩

end Provenance
