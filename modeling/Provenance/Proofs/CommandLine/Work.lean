import Provenance.CommandLine.Run
import Provenance.Proofs.Diagnostic
import Provenance.Proofs.Logging

/-!
What the steps of a call do to a scene. No step changes the files (`Keeps`), whatever the standard
output takes and whether or not the size of the terminal can be told. A step that asks a question
leaves the scene as it is if there is an answer (`on_settle_ok`), so questions in a row are one
question (`settle_bind`).
-/
namespace Provenance.CommandLine

variable {α β : Type}

/-- What comes of work on a scene: its answer, or how it breaks off, and the scene after it. -/
def Work.on (w : Work α) (s : Scene) : Except Break α × Scene := w.run.run s

/-! ## One step after the other -/

@[simp] theorem on_pure (a : α) (s : Scene) : Work.on (pure a) s = (.ok a, s) := rfl

@[simp] theorem on_currentFiles (s : Scene) : currentFiles.on s = (.ok s.files, s) := rfl

theorem on_bind (w : Work α) (next : α → Work β) (s : Scene) :
    (w >>= next).on s =
      match w.on s with
      | (.ok a, s) => (next a).on s
      | (.error fault, s) => (.error fault, s) := by
  change (ExceptT.bindCont next (w.on s).1).run (w.on s).2 = _
  rcases w.on s with ⟨_ | _, _⟩ <;> rfl

theorem on_bind_ok {w : Work α} {next : α → Work β} {s after : Scene} {a : α}
    (first : w.on s = (.ok a, after)) : (w >>= next).on s = (next a).on after := by
  rw [on_bind, first]

theorem on_bind_error {w : Work α} {next : α → Work β} {s after : Scene} {fault : Break}
    (first : w.on s = (.error fault, after)) : (w >>= next).on s = (.error fault, after) := by
  rw [on_bind, first]

@[simp] theorem on_settle_ok (host : Host) (a : α) (s : Scene) :
    (settle host (.ok a)).on s = (.ok a, s) := rfl

@[simp] theorem on_settle_error (host : Host) (stop : Stop) (s : Scene) :
    (settle host (.error stop) : Work α).on s =
      (.error (halt host stop s).1, (halt host stop s).2) := rfl

/-- Two questions in a row are one question. -/
theorem settle_bind (host : Host) (first : Except Stop α) (next : α → Except Stop β) :
    settle host (first >>= next) = settle host first >>= fun a => settle host (next a) := by
  funext s
  change (settle host (first >>= next)).on s = Work.on _ s
  cases first with
  | ok a => rfl
  | error stop =>
    rw [on_bind_error (on_settle_error host stop s)]
    rfl

theorem settle_ok (host : Host) (a : α) : settle host (.ok a) = pure a := rfl

@[simp] theorem settle_pure (host : Host) (a : α) : settle host (pure a) = pure a := rfl

/-- What comes after a question is done on the scene as it was. -/
theorem on_settle_congr {host : Host} {answer : Except Stop α} {next next' : α → Work β} {s : Scene}
    (same : ∀ a, (next a).on s = (next' a).on s) :
    (settle host answer >>= next).on s = (settle host answer >>= next').on s := by
  cases answer with
  | ok a => rw [on_bind_ok (on_settle_ok host a s), on_bind_ok (on_settle_ok host a s), same]
  | error stop =>
    rw [on_bind_error (on_settle_error host stop s), on_bind_error (on_settle_error host stop s)]

/-! ## The files -/

/-- Work that leaves the files as they are. -/
def Keeps (w : Work α) : Prop := ∀ s, (w.on s).2.files = s.files

theorem Keeps.pure (a : α) : Keeps (Pure.pure a) := fun _ => rfl

theorem Keeps.bind {w : Work α} {next : α → Work β} (first : Keeps w) (rest : ∀ a, Keeps (next a)) :
    Keeps (w >>= next) := by
  intro s
  have kept := first s
  rw [on_bind]
  rcases whole : w.on s with ⟨fault | a, after⟩ <;> rw [whole] at kept
  · exact kept
  · exact (rest a after).trans kept

theorem Keeps.expect (result : Except Raised α) : Keeps (expect result) := by
  cases result <;> exact fun _ => rfl

theorem Keeps.print (host : Host) (text : String) : Keeps (print host text) :=
  (Keeps.expect _).bind fun _ _ => rfl

theorem Keeps.draw (host : Host) (drawing : Drawing) : Keeps (draw host drawing) :=
  (Keeps.expect _).bind fun _ => (Keeps.expect _).bind fun _ _ => rfl

theorem Keeps.forM (l : List α) {act : α → Work Unit} (each : ∀ a ∈ l, Keeps (act a)) :
    Keeps (l.forM act) := by
  induction l with
  | nil => exact Keeps.pure _
  | cons a l ih =>
    obtain ⟨first, each⟩ := List.forall_mem_cons.mp each
    exact first.bind fun _ => ih each

/-- Reporting a failure changes nothing but what was written to the error stream. -/
theorem tell_part {γ : Type} (part : Scene → γ) (quiet : ∀ s err, part { s with err } = part s)
    (host : Host) (failure : Failure) (s : Scene) : part (tell host failure s).2 = part s := by
  unfold tell
  cases failure.report host.screen false with
  | ok report => exact quiet s _
  | error e => rfl

/-- A page that is asked for is printed. -/
theorem halt_of_page {host : Host} {stop : Stop} {page : String}
    (asked : stop.page? host = some page) (s : Scene) :
    halt host stop s =
      match (print host page).on s with
      | (.ok (), s) => (.exited 0, s)
      | (.error fault, s) => (fault, s) := by
  have handed : halt host stop = handOut host page := by
    cases stop with
    | helped callee =>
      cases asked
      rfl
    | completed text =>
      cases asked
      rfl
    | _ => cases asked
  rw [handed]
  unfold Work.on handOut
  simp only [bind, StateT.bind, StateT.run]
  rcases (print host page).run s with ⟨_ | _, _⟩ <;> rfl

theorem halt_reported (host : Host) (failure : Failure) (s : Scene) :
    halt host (.reported failure) s =
      match tell host failure s with
      | (.ok (), s) => (.exited failureStatus, s)
      | (.error e, s) => (.failed (.raised e), s) := by
  unfold halt
  simp only [bind, StateT.bind]
  rcases tell host failure s with ⟨_ | _, _⟩ <;> rfl

/-- Breaking off without a page changes nothing but what was written to the error stream. -/
theorem halt_part {γ : Type} (part : Scene → γ) (quiet : ∀ s err, part { s with err } = part s)
    {host : Host} {stop : Stop} (bare : stop.page? host = none) (s : Scene) :
    part (halt host stop s).2 = part s := by
  cases stop with
  | helped callee => cases bare
  | completed text =>
    cases bare
    rfl
  | reported failure =>
    have kept := tell_part part quiet host failure s
    rw [halt_reported]
    rcases whole : tell host failure s with ⟨_ | _, after⟩ <;> rw [whole] at kept <;> exact kept
  | _ => rfl

theorem halt_files (host : Host) (stop : Stop) (s : Scene) :
    (halt host stop s).2.files = s.files := by
  cases asked : stop.page? host with
  | none => exact halt_part Scene.files (fun _ _ => rfl) asked s
  | some page =>
    have kept := Keeps.print host page s
    rw [halt_of_page asked]
    rcases whole : (print host page).on s with ⟨_ | _, after⟩ <;> rw [whole] at kept <;> exact kept

theorem Keeps.settle (host : Host) (answer : Except Stop α) : Keeps (settle host answer) := by
  cases answer with
  | ok a => exact Keeps.pure a
  | error stop => exact halt_files host stop

theorem Keeps.currentFiles : Keeps currentFiles := fun _ => rfl

theorem Keeps.write (host : Host) (asJson : Bool) (report : Report) :
    Keeps (report.write host asJson) := by
  unfold Report.write
  split
  · exact Keeps.forM _ fun text _ => Keeps.print host text
  · exact Keeps.forM _ fun drawing _ => Keeps.draw host drawing

/-- Loading the settings keeps them, and then there is the question whether they are there. -/
theorem on_loadSettings (host : Host) (explicit : Option String) (s : Scene) :
    (loadSettings host explicit).on s =
      (settle host ((Settings.load host.loader host.env s.files explicit).mapError .ofFailure)).on
        { s with store := (s.store.load host.loader host.env s.files explicit).2 } := by
  have answer : (s.store.load host.loader host.env s.files explicit).1 =
      Settings.load host.loader host.env s.files explicit := by
    unfold Settings.Store.load
    cases Settings.load host.loader host.env s.files explicit <;> rfl
  rw [← answer]
  rfl

theorem Keeps.loadSettings (host : Host) (explicit : Option String) :
    Keeps (loadSettings host explicit) := by
  intro s
  rw [on_loadSettings]
  exact Keeps.settle host _ _

/-- Setting logging up succeeds, since the level is not a number that somebody has given. -/
theorem on_setUpLogging (host : Host) (debug : Value) :
    ∃ entries logged, ∀ s : Scene, (setUpLogging host debug).on s =
      (.ok (), { s with log := s.log ++ entries, err := s.err ++ logged }) := by
  let setup : Logging.Setup := ⟨host.env, Logging.errorStream, debug, none⟩
  have short : Text.IsShort setup.level := Logging.Setup.isShort_level rfl
  obtain ⟨written, -, configured⟩ := ({} : Logging.Loggers).configure_of_isShort short
  refine ⟨(((Logging.levelName setup.level).bind setup.reportText).toOption.map
    (LogEntry.debug .setup)).toList, String.join (written.map (·.2)), fun s => ?_⟩
  unfold setUpLogging
  simp only [configured, setup]
  rfl

theorem Keeps.setUpLogging (host : Host) (debug : Value) : Keeps (setUpLogging host debug) := by
  obtain ⟨entries, logged, sets⟩ := on_setUpLogging host debug
  intro s
  rw [sets]

theorem Keeps.command (host : Host) (settings : Settings) (arguments : List String)
    (command : Command) : Keeps (command.run host settings arguments) := by
  unfold Command.run
  refine Keeps.currentFiles.bind fun files => (Keeps.settle host _).bind fun a => ?_
  cases command with
  | list =>
    exact Keeps.currentFiles.bind fun _ => (Keeps.settle host _).bind fun _ =>
      Keeps.currentFiles.bind fun _ => (Keeps.settle host _).bind fun _ => Keeps.write host _ _
  | explain =>
    exact (Keeps.settle host _).bind fun _ => Keeps.currentFiles.bind fun _ =>
      (Keeps.settle host _).bind fun _ => Keeps.currentFiles.bind fun _ =>
        (Keeps.settle host _).bind fun _ => Keeps.write host _ _

theorem Keeps.answer (host : Host) (arguments : List String) : Keeps (answer host arguments) :=
  Keeps.currentFiles.bind fun _ => (Keeps.settle host _).bind fun _ =>
    (Keeps.loadSettings host _).bind fun _ => (Keeps.setUpLogging host _).bind fun _ =>
      Keeps.command host _ _ _

/-- Completing a call is complaining, and then breaking off. -/
theorem on_complete (host : Host) (completion : Completion) (s : Scene) :
    (complete host completion).on s =
      (settle host (.error completion.stop)).on { s with err := s.err ++ completion.complaint } :=
  rfl

theorem Keeps.work (host : Host) (arguments : List String) : Keeps (work host arguments) := by
  unfold CommandLine.work
  split
  · intro s
    rw [on_complete]
    exact Keeps.settle host _ _
  · exact Keeps.answer host arguments

theorem conclude_failed (host : Host) (failure : Failure) (s : Scene) :
    conclude host (.failed failure) s =
      match tell host failure s with
      | (.ok (), s) => (.exited failureStatus, s)
      | (.error e, s) => (.escaped e, s) := by
  unfold conclude
  simp only [bind, StateT.bind]
  rcases tell host failure s with ⟨_ | _, _⟩ <;> rfl

/-- What is made of a call that broke off adds to the error stream and changes nothing else. -/
theorem conclude_part {γ : Type} (part : Scene → γ) (quiet : ∀ s err, part { s with err } = part s)
    (host : Host) (fault : Break) (s : Scene) : part (conclude host fault s).2 = part s := by
  cases fault with
  | exited status => rfl
  | idle => exact quiet s _
  | misused callee fault => exact quiet s _
  | failed failure =>
    have kept := tell_part part quiet host failure s
    rw [conclude_failed]
    rcases whole : tell host failure s with ⟨_ | _, after⟩ <;> rw [whole] at kept <;> exact kept

theorem run_eq (host : Host) (arguments : List String) (s : Scene) :
    run host arguments s =
      match (work host arguments).on s with
      | (.ok (), s) => (.exited 0, s)
      | (.error fault, s) => conclude host fault s := by
  unfold run Work.on
  simp only [bind, StateT.bind, StateT.run]
  rcases (work host arguments).run s with ⟨_ | _, _⟩ <;> rfl

/-- A call leaves the files as they are. -/
theorem run_files (host : Host) (arguments : List String) (s : Scene) :
    (run host arguments s).2.files = s.files := by
  have kept := Keeps.work host arguments s
  rw [run_eq]
  rcases whole : (work host arguments).on s with ⟨fault | _, after⟩ <;> rw [whole] at kept
  · exact (conclude_part Scene.files (fun _ _ => rfl) host fault after).trans kept
  · exact kept

end Provenance.CommandLine
