import Provenance.Dispatcher
import Provenance.Proofs.Tracking.Gates

/-!
Deliveries. Whatever listeners do when they are called, a delivery calls the listeners that were
registered when it began, in order, up to the first that fails (`callAll_delivered`), and what is
registered or withdrawn meanwhile does not change who is called (`callAll_congr`). All that the
reactions of the called listeners did stays, up to the one that failed (`runReactions_cases`).
-/
namespace Provenance

/-! ## Who is called -/

/-- Listeners act one after the other, and none of them fails. -/
inductive Passes (conduct : Conduct) : Stage → List Listener → Stage → Prop
  | nil (stage : Stage) : Passes conduct stage [] stage
  | cons {listener : Listener} {rest : List Listener} {before middle after : Stage} :
      conduct listener before = (none, middle) → Passes conduct middle rest after →
      Passes conduct before (listener :: rest) after

/-- How a delivery to listeners goes: all are called and none fails, or one fails, after which
no other is called. What the called listeners left is what the delivery leaves. -/
inductive Delivered (conduct : Conduct) (stage : Stage) (listeners : List Listener) :
    Delivery → Prop
  | toAll {after : Stage} : Passes conduct stage listeners after →
      Delivered conduct stage listeners ⟨listeners, none, after⟩
  | upTo {before later : List Listener} {last : Listener} {middle after : Stage}
      {failure : Failure} : listeners = before ++ last :: later →
      Passes conduct stage before middle → conduct last middle = (some failure, after) →
      Delivered conduct stage listeners ⟨before ++ [last], some failure, after⟩

/-- Listeners are called in order, up to the first that fails. -/
theorem callAll_delivered (conduct : Conduct) (stage : Stage) (listeners : List Listener) :
    Delivered conduct stage listeners (callAll conduct listeners stage) := by
  induction listeners generalizing stage with
  | nil => exact .toAll (.nil stage)
  | cons listener rest ih =>
    rw [callAll]
    rcases acted : conduct listener stage with ⟨_ | failure, after⟩
    · have later := ih after
      dsimp only
      generalize callAll conduct rest after = delivery at later ⊢
      cases later with
      | toAll passed => exact .toAll (.cons acted passed)
      | upTo split passed failed => exact .upTo (by rw [split]; rfl) (.cons acted passed) failed
    · exact .upTo rfl (.nil stage) acted

/-- Two ways to act that differ in what becomes of the registrations at most: the same listeners
fail in the same way, and they leave the same files. -/
def Conduct.AgreesBesides (conduct other : Conduct) : Prop :=
  ∀ listener stage stage', stage.files = stage'.files →
    (conduct listener stage).1 = (other listener stage').1 ∧
      (conduct listener stage).2.files = (other listener stage').2.files

/-- Who is called does not depend on what becomes of the registrations meanwhile. -/
theorem callAll_congr {conduct other : Conduct} (agrees : conduct.AgreesBesides other)
    {stage stage' : Stage} (files : stage.files = stage'.files) (listeners : List Listener) :
    let delivery := callAll conduct listeners stage
    let delivery' := callAll other listeners stage'
    delivery.called = delivery'.called ∧ delivery.failure = delivery'.failure ∧
      delivery.stage.files = delivery'.stage.files := by
  induction listeners generalizing stage stage' with
  | nil => exact ⟨rfl, rfl, files⟩
  | cons listener rest ih =>
    have agreed := agrees listener stage stage' files
    simp only [callAll]
    generalize conduct listener stage = acted at agreed ⊢
    generalize other listener stage' = acted' at agreed ⊢
    obtain ⟨outcome, after⟩ := acted
    obtain ⟨outcome', after'⟩ := acted'
    obtain ⟨rfl, left⟩ := agreed
    cases outcome with
    | none =>
      obtain ⟨called, failure, leaves⟩ := ih left
      exact ⟨congrArg (listener :: ·) called, failure, leaves⟩
    | some failure => exact ⟨rfl, rfl, left⟩

/-! ## What reactions do -/

/-- The dispatcher after a reaction, whatever else the reaction does. -/
def Dispatcher.react (d : Dispatcher) : Reaction → Dispatcher
  | .track | .fail _ => d
  | .withdraw handle => d.withdraw handle
  | .register handle reactions => d.register handle reactions
  | .registerAgain handle known => d.registerAgain handle known

/-- The files after a reaction to an event: only a record that is written changes them. -/
def FileSystem.react (disk : Disk) (event : Event) (files : FileSystem) : Reaction → FileSystem
  | .track => (deliver .standard disk files event).files
  | _ => files

/-- How a reaction fails: as it is told to, or because the record of the event could not be written.
That is told by a diagnostic, unless the path of the record has a NUL in it, or its lines have no
bytes. -/
inductive Reaction.Fails (disk : Disk) (event : Event) (files : FileSystem) :
    Reaction → Failure → Prop
  | told (message : String) : Fails disk event files (.fail message) (.stated message)
  | notWritten {file : Path} {step : CollectStep} {error : Diagnostic} :
      event.Judged (.recordedFor file step) →
      (persist disk files file (.dependency step.root) step.lines).answer =
        .ok ⟨recordPath file (.dependency step.root), some error⟩ →
      error.code.number = 7004 ∨ error.code.number = 7005 →
      Fails disk event files .track (.diagnosed error)
  | stranded {file : Path} {step : CollectStep} {fault : Text.EncodeFault} :
      event.Judged (.recordedFor file step) → Record.encode step.lines = .error fault →
      Fails disk event files .track (.unencodable fault)
  | null {file : Path} {step : CollectStep} : event.Judged (.recordedFor file step) →
      '\x00' ∈ (recordPath file (.dependency step.root)).text.toList →
      Fails disk event files .track (.file .embeddedNull)

theorem Reaction.run_stage (disk : Disk) (event : Event) (stage : Stage) (reaction : Reaction) :
    (reaction.run disk event stage).2.dispatcher = stage.dispatcher.react reaction ∧
      (reaction.run disk event stage).2.files = stage.files.react disk event reaction := by
  cases reaction with
  | track =>
    simp only [run, Dispatcher.react, FileSystem.react]
    split <;> exact ⟨rfl, rfl⟩
  | fail message => exact ⟨rfl, rfl⟩
  | withdraw handle => exact ⟨rfl, rfl⟩
  | register handle reactions => exact ⟨rfl, rfl⟩
  | registerAgain handle known => exact ⟨rfl, rfl⟩

/-- The failure of a reaction does not depend on what is registered. -/
theorem Reaction.run_congr (disk : Disk) (event : Event) (reaction : Reaction)
    {stage stage' : Stage} (files : stage.files = stage'.files) :
    (reaction.run disk event stage).1 = (reaction.run disk event stage').1 := by
  cases reaction with
  | track =>
    simp only [run, files]
    split <;> rfl
  | fail message => rfl
  | withdraw handle => rfl
  | register handle reactions => rfl
  | registerAgain handle known => rfl

/-- Whether a reaction leaves the registrations as they are. -/
def Reaction.keepsRegistrations : Reaction → Bool
  | .track | .fail _ => true
  | .withdraw _ | .register _ _ | .registerAgain _ _ => false

/-- How listeners would take an event if they registered nothing and withdrew nothing. -/
def Conduct.keeping (disk : Disk) (event : Event) : Conduct :=
  fun listener => runReactions disk event (listener.reactions.filter (·.keepsRegistrations))

/-- A reaction that does not keep the registrations does nothing else. -/
theorem Reaction.run_of_not_keeps {reaction : Reaction} (changes : ¬reaction.keepsRegistrations)
    (disk : Disk) (event : Event) (stage : Stage) :
    (reaction.run disk event stage).1 = none ∧
      (reaction.run disk event stage).2.files = stage.files := by
  cases reaction with
  | track => exact absurd rfl changes
  | fail message => exact absurd rfl changes
  | withdraw handle => exact ⟨rfl, rfl⟩
  | register handle reactions => exact ⟨rfl, rfl⟩
  | registerAgain handle known => exact ⟨rfl, rfl⟩

theorem runReactions_keeping (disk : Disk) (event : Event) (reactions : List Reaction)
    {stage stage' : Stage} (files : stage.files = stage'.files) :
    let kept := runReactions disk event (reactions.filter (·.keepsRegistrations)) stage'
    (runReactions disk event reactions stage).1 = kept.1 ∧
      (runReactions disk event reactions stage).2.files = kept.2.files := by
  induction reactions generalizing stage stage' with
  | nil => exact ⟨rfl, files⟩
  | cons reaction rest ih =>
    by_cases keeps : reaction.keepsRegistrations
    · have same := reaction.run_congr disk event files
      have left := (reaction.run_stage disk event stage).2
      have left' := (reaction.run_stage disk event stage').2
      rw [List.filter_cons_of_pos keeps]
      simp only [runReactions]
      rw [← files, ← left] at left'
      generalize reaction.run disk event stage = ran at same left' ⊢
      generalize reaction.run disk event stage' = ran' at same left' ⊢
      obtain ⟨outcome, after⟩ := ran
      obtain ⟨outcome', after'⟩ := ran'
      cases same
      cases outcome with
      | none => exact ih left'.symm
      | some failure => exact ⟨rfl, left'.symm⟩
    · have silent := Reaction.run_of_not_keeps keeps disk event stage
      rw [List.filter_cons_of_neg keeps]
      simp only [runReactions]
      generalize reaction.run disk event stage = ran at silent ⊢
      obtain ⟨outcome, after⟩ := ran
      obtain ⟨rfl, left⟩ := silent
      exact ih (left.trans files)

theorem Conduct.on_agrees_keeping (disk : Disk) (event : Event) :
    (Conduct.on disk event).AgreesBesides (.keeping disk event) :=
  fun listener _ _ files => runReactions_keeping disk event listener.reactions files

/-- The listener that records fails only if the record of the event cannot be written. -/
theorem deliver_fails {disk : Disk} {files : FileSystem} {event : Event} {failure : Failure}
    (failed : (deliver .standard disk files event).answer = .error failure) :
    Reaction.Fails disk event files .track failure := by
  obtain ⟨verdict, judged⟩ := event.exists_judged
  cases verdict with
  | ignored =>
    rw [((deliver_of_passedOver disk files event).1 judged).1] at failed
    cases failed
  | passedOver reason =>
    rw [((deliver_of_passedOver disk files event).2 reason judged).1] at failed
    cases failed
  | recordedFor file step =>
    rw [(deliver_of_recordedFor disk files judged).2] at failed
    have ended := persist_ended disk files file (.dependency step.root) step.lines
    generalize written :
      (persist disk files file (.dependency step.root) step.lines).answer = answer
      at failed ended
    cases ended with
    | well => cases failed
    | noDirectory fault path =>
      cases failed
      exact .notWritten judged written (.inl rfl)
    | notWritten fault looked =>
      cases failed
      exact .notWritten judged written (.inr rfl)
    | unencodable fault refused =>
      cases failed
      exact .stranded judged refused
    | null null =>
      cases failed
      exact .null judged null

theorem Reaction.run_fails {disk : Disk} {event : Event} {stage : Stage} {reaction : Reaction}
    {failure : Failure} (failed : (reaction.run disk event stage).1 = some failure) :
    reaction.Fails disk event stage.files failure := by
  cases reaction with
  | track =>
    simp only [run] at failed
    split at failed
    · cases failed
    · rename_i answered
      cases failed
      exact deliver_fails answered
  | fail message =>
    cases failed
    exact .told message
  | withdraw handle => cases failed
  | register handle reactions => cases failed
  | registerAgain handle known => cases failed

/-- The reactions that were carried out, and what they did: `rest` is left out because the last one
failed. -/
structure CarriedOut (disk : Disk) (event : Event) (stage : Stage) (done rest : List Reaction)
    (failure : Option Failure) (after : Stage) : Prop where
  dispatcher : after.dispatcher = done.foldl Dispatcher.react stage.dispatcher
  files : after.files = done.foldl (FileSystem.react disk event) stage.files
  stopped : match failure with
    | none => rest = []
    | some failure => ∃ earlier last, done = earlier ++ [last] ∧
        last.Fails disk event (earlier.foldl (FileSystem.react disk event) stage.files) failure

/-- Reactions are carried out one after the other, up to the first that fails, and stay. -/
theorem runReactions_cases (disk : Disk) (event : Event) (reactions : List Reaction)
    (stage : Stage) :
    ∃ done rest, reactions = done ++ rest ∧
      CarriedOut disk event stage done rest (runReactions disk event reactions stage).1
        (runReactions disk event reactions stage).2 := by
  induction reactions generalizing stage with
  | nil => exact ⟨[], [], rfl, rfl, rfl, rfl⟩
  | cons reaction reactions ih =>
    have effect := reaction.run_stage disk event stage
    have fails := @Reaction.run_fails disk event stage reaction
    rw [runReactions]
    rcases ran : reaction.run disk event stage with ⟨_ | failure, after⟩
    · rw [ran] at effect
      dsimp only at effect ⊢
      obtain ⟨done, rest, split, carried⟩ := ih after
      refine ⟨reaction :: done, rest, by rw [split]; rfl, ?_, ?_, ?_⟩
      · rw [carried.dispatcher, effect.1]
        rfl
      · rw [carried.files, effect.2]
        rfl
      · have stopped := carried.stopped
        generalize (runReactions disk event reactions after).1 = outcome at stopped ⊢
        cases outcome with
        | none => exact stopped
        | some failure =>
          obtain ⟨earlier, last, whole, failed⟩ := stopped
          refine ⟨reaction :: earlier, last, by rw [whole]; rfl, ?_⟩
          rwa [effect.2] at failed
    · rw [ran] at effect
      refine ⟨[reaction], reactions, rfl, effect.1, effect.2, [], reaction, rfl, ?_⟩
      exact fails (by rw [ran])

theorem runReactions_append (disk : Disk) (event : Event) (reactions more : List Reaction)
    (stage : Stage) :
    runReactions disk event (reactions ++ more) stage =
      match runReactions disk event reactions stage with
      | (none, after) => runReactions disk event more after
      | failed => failed := by
  induction reactions generalizing stage with
  | nil => rfl
  | cons reaction reactions ih =>
    rw [List.cons_append, runReactions, runReactions]
    rcases reaction.run disk event stage with ⟨_ | failure, after⟩
    · exact ih after
    · rfl

/-- A delivery carries out the reactions of the listeners that it calls. -/
theorem runReactions_called (disk : Disk) (event : Event) (listeners : List Listener)
    (stage : Stage) :
    let delivery := callAll (.on disk event) listeners stage
    runReactions disk event (delivery.called.flatMap (·.reactions)) stage =
      (delivery.failure, delivery.stage) := by
  induction listeners generalizing stage with
  | nil => rfl
  | cons listener rest ih =>
    simp only [callAll, Conduct.on]
    rcases ran : runReactions disk event listener.reactions stage with ⟨_ | failure, after⟩
    · dsimp only
      rw [List.flatMap_cons, runReactions_append, ran]
      exact ih after
    · simp [ran]

/-- Whatever listeners do, a delivery calls the listeners that are registered when it begins, each
registration once and in order, up to the first that fails; its failure is that of the delivery. The
same are called about an event, and fail alike, if what they register and withdraw meanwhile is left
out. What they do stays, also if the last of them fails: every reaction up to the failed one has its
effect on what is registered and on the files. -/
theorem delivery_by_snapshot (stage : Stage) :
    (∀ conduct,
        Delivered conduct stage stage.dispatcher.registered (stage.callRegistered conduct)) ∧
      ∀ disk event,
        let delivery := stage.dispatch disk event
        let keeping := stage.callRegistered (.keeping disk event)
        (delivery.called = keeping.called ∧ delivery.failure = keeping.failure ∧
            delivery.stage.files = keeping.stage.files) ∧
          ∃ done rest, delivery.called.flatMap (·.reactions) = done ++ rest ∧
            CarriedOut disk event stage done rest delivery.failure delivery.stage := by
  refine ⟨fun conduct => callAll_delivered conduct stage _, fun disk event => ?_⟩
  intro delivery keeping
  refine ⟨callAll_congr (Conduct.on_agrees_keeping disk event) rfl _, ?_⟩
  obtain ⟨done, rest, split, carried⟩ :=
    runReactions_cases disk event (delivery.called.flatMap (·.reactions)) stage
  have ran : runReactions disk event (delivery.called.flatMap (·.reactions)) stage =
      (delivery.failure, delivery.stage) :=
    runReactions_called disk event stage.dispatcher.registered stage
  rw [ran] at carried
  exact ⟨done, rest, split, carried⟩

/-- The failure of a listener that records is no diagnostic if the file is in a directory with a
NUL in its name. -/
theorem dispatch_null :
    let lib : Artifact := { group := "com.x", name := "lib", version := "2.0" }
    let app : Artifact := { group := "com.x", name := "app", version := "1.0" }
    let event : Event :=
      { kind := .artifactResolved
        repository := ⟨.ofText "/repo"⟩
        artifact := { lib with file := some (.ofText "/repo/a\x00b/lib.jar") }
        trace := [some (.collect ⟨"compile", [⟨app, ""⟩], ⟨lib, ""⟩⟩)] }
    let stage : Stage := ⟨({} : Dispatcher).register "t" [.track], ⟨[], []⟩, []⟩
    (stage.dispatch .ample event).failure = some (.file .embeddedNull) ∧
      ∀ error, (stage.dispatch .ample event).failure ≠ some (.diagnosed error) := by
  intro lib app event stage
  have judged : event.Judged
      (.recordedFor (.ofText "/repo/a\x00b/lib.jar") ⟨"compile", [⟨app, ""⟩], ⟨lib, ""⟩⟩) :=
    .ownNode rfl ⟨rfl, by decide⟩ ⟨[], [], rfl, by simp⟩ rfl
  have refused :
      (deliver .standard .ample ⟨[], []⟩ event).answer = .error (.file .embeddedNull) := by
    rw [(deliver_of_recordedFor .ample ⟨[], []⟩ judged).2, persist_null _ _ _ (by decide)]
  have failed : (stage.dispatch .ample event).failure = some (.file .embeddedNull) := by
    simp only [Stage.dispatch, Stage.callRegistered, stage, Dispatcher.register,
      Dispatcher.attach, List.nil_append, callAll, Conduct.on, runReactions, Reaction.run, refused]
  exact ⟨failed, fun error diagnosed => by rw [failed] at diagnosed; cases diagnosed⟩

end Provenance
