import Provenance.Proofs.CommandLine.Work
import Provenance.Proofs.Steps

/-!
What a call prints and how it ends. All that a report tells is found out before the first piece of
it is printed (`on_work`), so a call that stops before its report prints nothing (`run_of_stop`). On
a terminal whose size can be told every call ends with a status; it prints its pieces one after the
other up to the first that the standard output does not take (`run_ends`).
-/
namespace Provenance.CommandLine

/-! ## A call as a question and its report -/

/-- The report of a command whose arguments are these, or why it stops before there is one. -/
def Command.report (env : Environment) (files : FileSystem) (settings : Settings) (a : Arguments) :
    Command → Except Stop Report
  | .list => do
    let chosen := chooseRepository env files settings (a.last? .repo)
    let repository ← chosen.mapError .ofFailure
    let listing ← (listArtifacts files repository).mapError .failed
    return listingReport repository listing
  | .explain => do
    let artifact ← artifactOf a
    let chosen := chooseRepository env files settings (a.last? .repo)
    let repository ← chosen.mapError .ofFailure
    let explanation ← (explainArtifact files repository artifact).mapError .failed
    return explanation.report

/-- The report of a call, and whether it is asked for as JSON, or why the call stops before there is
a report. -/
def reply (host : Host) (files : FileSystem) (arguments : List String) :
    Except Stop (Bool × Report) :=
  match host.completion? with
  | some completion => .error completion.stop
  | none => do
    let request ← Request.read files arguments
    let loaded := Settings.load host.loader host.env files (request.options.last? .config)
    let settings ← loaded.mapError .ofFailure
    let a ← (Callee.command request.command).accept files request.arguments
    let report ← request.command.report host.env files settings a
    return (a.has .json, report)

/-- A command gathers its report before it prints any of it. -/
theorem on_command (host : Host) (settings : Settings) (arguments : List String) (command : Command)
    (s : Scene) :
    (command.run host settings arguments).on s =
      (settle host ((Callee.command command).accept s.files arguments) >>= fun a =>
        settle host (command.report host.env s.files settings a) >>= fun report =>
          report.write host (a.has .json)).on s := by
  unfold Command.run
  rw [on_bind_ok (on_currentFiles s)]
  refine on_settle_congr fun a => ?_
  cases command with
  | list =>
    simp only [Command.report, settle_bind, settle_pure, bind_assoc, pure_bind]
    rw [on_bind_ok (on_currentFiles s)]
    refine on_settle_congr fun repository => ?_
    rw [on_bind_ok (on_currentFiles s)]
  | explain =>
    simp only [Command.report, settle_bind, settle_pure, bind_assoc, pure_bind]
    refine on_settle_congr fun artifact => ?_
    rw [on_bind_ok (on_currentFiles s)]
    refine on_settle_congr fun repository => ?_
    rw [on_bind_ok (on_currentFiles s)]

/-- A call finds out all that it has to report before it prints any of it. What it keeps and reports
on the way has no part in this. -/
theorem on_work (host : Host) (arguments : List String) (s : Scene) :
    ∃ now logged, now.out = s.out ∧ now.err = s.err ++ logged ∧
      (work host arguments).on s =
        (settle host (reply host s.files arguments) >>= fun (asJson, report) =>
          report.write host asJson).on now := by
  unfold work reply
  cases host.completion? with
  | some completion =>
    refine ⟨{ s with err := s.err ++ completion.complaint }, completion.complaint, rfl, rfl, ?_⟩
    exact (on_complete host completion s).trans (on_bind_error (on_settle_error ..)).symm
  | none =>
    simp only
    unfold answer
    rw [on_bind_ok (on_currentFiles s)]
    cases Request.read s.files arguments with
    | error stop =>
      exact ⟨s, "", rfl, by simp, rfl⟩
    | ok request =>
      rw [on_bind_ok (on_settle_ok host request s)]
      -- The settings are kept as soon as they are loaded, before it is asked if they are there.
      have load := on_loadSettings host (request.options.last? .config) s
      generalize (s.store.load host.loader host.env s.files (request.options.last? .config)).2 =
        store at load
      simp only [settle_bind, settle_ok, settle_pure, pure_bind, bind_assoc]
      cases loaded : (Settings.load host.loader host.env s.files
          (request.options.last? .config)).mapError Stop.ofFailure with
      | error stop =>
        rw [loaded, on_settle_error] at load
        refine ⟨{ s with store }, "", rfl, by simp, ?_⟩
        rw [on_bind_error load, on_bind_error (on_settle_error host stop _)]
      | ok settings =>
        rw [loaded, on_settle_ok] at load
        obtain ⟨log, logged, sets⟩ := on_setUpLogging host
          (if request.options.has .debug then .bool true else settings.debug)
        refine ⟨{ s with store, log := s.log ++ log, err := s.err ++ logged }, logged, rfl, rfl, ?_⟩
        rw [on_bind_ok load, on_bind_ok (sets _), on_command, settle_ok, pure_bind]

/-- A call that stops before it has a report prints nothing, unless it stops with a page. -/
theorem run_of_stop {host : Host} {arguments : List String} {s : Scene} {stop : Stop}
    (replied : reply host s.files arguments = .error stop) (bare : stop.page? host = none) :
    (run host arguments s).2.out = s.out := by
  obtain ⟨now, logged, same, -, whole⟩ := on_work host arguments s
  have halted := halt_part Scene.out (fun _ _ => rfl) bare now
  rw [run_eq, whole, replied, on_bind_error (on_settle_error host stop now)]
  exact (conclude_part Scene.out (fun _ _ => rfl) host _ _).trans (halted.trans same)

/-- A stop that is a failure, wherever it is reported. -/
inductive Stop.IsFailure : Stop → Prop
  | reported (failure : Failure) : IsFailure (.reported failure)
  | failed (failure : Failure) : IsFailure (.failed failure)

theorem Stop.IsFailure.bare {stop : Stop} (failure : stop.IsFailure) (host : Host) :
    stop.page? host = none := by
  cases failure <;> rfl

theorem tell_of_unsized {host : Host} {e : Raised} (unsized : host.screen = .error e)
    (failure : Failure) (s : Scene) : tell host failure s = (.error e, s) := by
  rw [tell, unsized]
  rfl

/-- Where the size of the terminal cannot be told, a failure is not reported, and the error of the
size is not held back. -/
theorem run_of_unsized {host : Host} {e : Raised} (unsized : host.screen = .error e)
    {arguments : List String} {s : Scene} {stop : Stop}
    (replied : reply host s.files arguments = .error stop) (failure : stop.IsFailure) :
    (run host arguments s).1 = .escaped e := by
  obtain ⟨now, logged, -, -, whole⟩ := on_work host arguments s
  rw [run_eq, whole, replied, on_bind_error (on_settle_error host _ now)]
  cases failure with
  | reported failure =>
    rw [halt_reported, tell_of_unsized unsized]
    change (conclude host (.failed (.raised e)) now).1 = _
    rw [conclude_failed, tell_of_unsized unsized]
  | failed failure =>
    change (conclude host (.failed failure) now).1 = _
    rw [conclude_failed, tell_of_unsized unsized]

/-! ## Pieces -/

/-- The pieces of a report on a terminal. -/
def Report.pieces (asJson : Bool) (screen : Screen) (report : Report) : List String :=
  if asJson then [report.json.pretty, "\n"]
  else report.drawings.map fun drawing => Terminal.unlines (drawing screen)

/-- Work that writes a text to the standard output if it is taken there, and else breaks off. -/
structure Writes (host : Host) (w : Work Unit) (text : String) : Prop where
  taken : host.output.takes text = .ok () →
    ∀ s, w.on s = (.ok (), { s with out := s.out ++ text })
  refused : ∀ e, host.output.takes text = .error e →
    ∃ e', ∀ s, w.on s = (.error (.failed (.raised e')), s)

theorem writes_print (host : Host) (text : String) : Writes host (print host text) text := by
  constructor
  case taken =>
    intro takes s
    rw [print, takes]
    rfl
  case refused =>
    intro e takes
    refine ⟨e, fun s => ?_⟩
    rw [print, takes]
    rfl

theorem writes_draw {host : Host} {screen : Screen} (sized : host.screen = .ok screen)
    (drawing : Drawing) : Writes host (draw host drawing) (Terminal.unlines (drawing screen)) := by
  constructor
  case taken =>
    intro takes s
    rw [draw, sized]
    change ((expect (Except.mapError withAdvice
      (host.output.takes (Terminal.unlines (drawing screen)))) >>= fun _ => _).on s) = _
    rw [takes]
    rfl
  case refused =>
    intro e takes
    refine ⟨withAdvice e, fun s => ?_⟩
    rw [draw, sized]
    change ((expect (Except.mapError withAdvice
      (host.output.takes (Terminal.unlines (drawing screen)))) >>= fun _ => _).on s) = _
    rw [takes]
    rfl

/-- Writing texts one after the other writes all of them, or those before the first that is not
taken. -/
theorem on_forM_writes {α : Type} {host : Host} {act : α → Work Unit} {text : α → String}
    (writes : ∀ a, Writes host (act a) (text a)) (l : List α) (s : Scene) :
    (∀ piece ∈ l.map text, host.output.takes piece = .ok ()) ∧
        (l.forM act).on s = (.ok (), { s with out := s.out ++ String.join (l.map text) }) ∨
      ∃ before piece after e e', l.map text = before ++ piece :: after ∧
        (∀ earlier ∈ before, host.output.takes earlier = .ok ()) ∧
        host.output.takes piece = .error e ∧
        (l.forM act).on s =
          (.error (.failed (.raised e')), { s with out := s.out ++ String.join before }) := by
  induction l generalizing s with
  | nil => exact .inl ⟨by simp, by simp [on_pure]⟩
  | cons a l ih =>
    have step : (a :: l).forM act = act a >>= fun _ => l.forM act := rfl
    rw [step, List.map_cons]
    cases takes : host.output.takes (text a) with
    | error e =>
      obtain ⟨e', breaks⟩ := (writes a).refused e takes
      exact .inr ⟨[], text a, l.map text, e, e', rfl, by simp, takes,
        by simp [on_bind_error (breaks s)]⟩
    | ok =>
      rw [on_bind_ok ((writes a).taken takes s)]
      rcases ih { s with out := s.out ++ text a } with
        ⟨all, whole⟩ | ⟨before, piece, after, e, e', split, earlier, refuses, whole⟩
      · exact .inl ⟨List.forall_mem_cons.mpr ⟨takes, all⟩,
          by rw [whole]; simp [String.join_cons, String.append_assoc]⟩
      · exact .inr ⟨text a :: before, piece, after, e, e', by rw [split]; rfl,
          List.forall_mem_cons.mpr ⟨takes, earlier⟩, refuses,
          by rw [whole]; simp [String.join_cons, String.append_assoc]⟩

/-- Writing a report writes all of its pieces, or those before the first that is not taken. -/
theorem on_write {host : Host} {screen : Screen} (sized : host.screen = .ok screen) (asJson : Bool)
    (report : Report) (s : Scene) :
    (∀ piece ∈ report.pieces asJson screen, host.output.takes piece = .ok ()) ∧
        (report.write host asJson).on s =
          (.ok (), { s with out := s.out ++ String.join (report.pieces asJson screen) }) ∨
      ∃ before piece after e e', report.pieces asJson screen = before ++ piece :: after ∧
        (∀ earlier ∈ before, host.output.takes earlier = .ok ()) ∧
        host.output.takes piece = .error e ∧
        (report.write host asJson).on s =
          (.error (.failed (.raised e')), { s with out := s.out ++ String.join before }) := by
  cases asJson with
  | true =>
    have writes : ∀ text, Writes host (print host text) (id text) := writes_print host
    have written := on_forM_writes writes [report.json.pretty, "\n"] s
    rwa [List.map_id] at written
  | false => exact on_forM_writes (writes_draw sized) report.drawings s

/-! ## Reports of failures -/

/-- A failure can be reported on every terminal. -/
theorem exists_report (failure : Failure) (screen : Screen) :
    ∃ text, failure.report (.ok screen) false = .ok text := by
  have hints : ∃ hints, failure.hints = .ok hints := by
    cases failure with
    | diagnosed d =>
      obtain ⟨hints, told, -⟩ := d.exists_hints
      exact ⟨hints, told⟩
    | _ => exact ⟨[], rfl⟩
  obtain ⟨hints, told⟩ := hints
  unfold Failure.report Failure.lines
  rw [told]
  exact ⟨_, rfl⟩

theorem tell_of_report {host : Host} {screen : Screen} (sized : host.screen = .ok screen)
    {failure : Failure} {text : String} (told : failure.report (.ok screen) false = .ok text)
    (s : Scene) : tell host failure s = (.ok (), { s with err := s.err ++ text }) := by
  rw [tell, sized, told]
  rfl

/-! ## Ends -/

/-- The pieces that a call prints on a terminal, or why it stops. A page is one piece. -/
def pieces (host : Host) (screen : Screen) (files : FileSystem) (arguments : List String) :
    Except Stop (List String) :=
  match reply host files arguments with
  | .ok (asJson, report) => .ok (report.pieces asJson screen)
  | .error stop =>
    match stop.page? host with
    | some page => .ok [page]
    | none => .error stop

/-- The exit status of a call that stops. -/
def Stop.status : Stop → Nat
  | .helped _ | .completed (some _) => 0
  | .idle | .misused .. => 2
  | .completed none | .reported _ | .failed _ => 1

/-- What is written to the error stream about a call that stops. -/
inductive Stop.Blames (host : Host) (screen : Screen) : Stop → String → Prop
  | completed : Blames host screen (.completed none) ""
  | idle : Blames host screen .idle (Callee.program.page host.env.pageColumns)
  | misused (callee : Callee) (fault : UsageFault) : Blames host screen (.misused callee fault)
      (String.ofList (Terminal.withoutStyles (fault.report callee).toList))
  | reported {failure : Failure} {text : String}
      (told : failure.report (.ok screen) false = .ok text) :
      Blames host screen (.reported failure) text
  | failed {failure : Failure} {text : String}
      (told : failure.report (.ok screen) false = .ok text) :
      Blames host screen (.failed failure) text

/-- How a call ends, with what it prints and what it writes to the error stream: it prints all its
pieces, or those before the first that is not taken, or it stops and prints nothing. -/
inductive Ends (host : Host) (screen : Screen) (files : FileSystem) (arguments : List String) :
    Nat → String → String → Prop
  | printed {all : List String} (planned : pieces host screen files arguments = .ok all)
      (taken : ∀ piece ∈ all, host.output.takes piece = .ok ()) :
      Ends host screen files arguments 0 (String.join all) ""
  | refused {before after : List String} {piece text : String} {e e' : Raised}
      (planned : pieces host screen files arguments = .ok (before ++ piece :: after))
      (taken : ∀ earlier ∈ before, host.output.takes earlier = .ok ())
      (refuses : host.output.takes piece = .error e)
      (told : (Failure.raised e').report (.ok screen) false = .ok text) :
      Ends host screen files arguments 1 (String.join before) text
  | stopped {stop : Stop} {text : String}
      (planned : pieces host screen files arguments = .error stop)
      (blames : stop.Blames host screen text) :
      Ends host screen files arguments stop.status "" text

/-- A call that breaks off with a failure reports it. -/
theorem conclude_of_sized {host : Host} {screen : Screen} (sized : host.screen = .ok screen)
    (failure : Failure) (s : Scene) :
    ∃ text, failure.report (.ok screen) false = .ok text ∧
      conclude host (.failed failure) s = (.exited 1, { s with err := s.err ++ text }) := by
  obtain ⟨text, told⟩ := exists_report failure screen
  refine ⟨text, told, ?_⟩
  rw [conclude_failed, tell_of_report sized told]
  rfl

/-- A call that has a report writes it, or a part of it. -/
theorem ends_of_report {host : Host} {screen : Screen} (sized : host.screen = .ok screen)
    {files : FileSystem} {arguments : List String} {asJson : Bool} {report : Report}
    (replied : reply host files arguments = .ok (asJson, report)) (now : Scene) :
    ∃ status out err, Ends host screen files arguments status out err ∧
      (match (report.write host asJson).on now with
      | (.ok (), s) => (.exited 0, s)
      | (.error fault, s) => conclude host fault s) =
        (.exited status, { now with out := now.out ++ out, err := now.err ++ err }) := by
  have planned : pieces host screen files arguments = .ok (report.pieces asJson screen) := by
    rw [pieces, replied]
  rcases on_write sized asJson report now with
    ⟨taken, whole⟩ | ⟨before, piece, after, e, e', split, taken, refuses, whole⟩
  · exact ⟨0, _, "", .printed planned taken, by rw [whole]; simp⟩
  · obtain ⟨text, told, ends⟩ :=
      conclude_of_sized sized (.raised e') { now with out := now.out ++ String.join before }
    refine ⟨1, _, text, .refused (planned.trans (by rw [split])) taken refuses told, ?_⟩
    rw [whole]
    exact ends

/-- A call that stops before it has a report ends with the status of its stop, or prints a page. -/
theorem ends_of_stop {host : Host} {screen : Screen} (sized : host.screen = .ok screen)
    {files : FileSystem} {arguments : List String} {stop : Stop}
    (replied : reply host files arguments = .error stop) (now : Scene) :
    ∃ status out err, Ends host screen files arguments status out err ∧
      conclude host (halt host stop now).1 (halt host stop now).2 =
        (.exited status, { now with out := now.out ++ out, err := now.err ++ err }) := by
  cases asked : stop.page? host with
  | some page =>
    have planned : pieces host screen files arguments = .ok [page] := by
      rw [pieces, replied]
      simp only [asked]
    rw [halt_of_page asked]
    cases takes : host.output.takes page with
    | ok =>
      rw [(writes_print host _).taken takes now]
      exact ⟨0, _, "", .printed planned (by simpa using takes),
        by rw [String.append_empty]; rfl⟩
    | error e =>
      obtain ⟨e', breaks⟩ := (writes_print host _).refused e takes
      obtain ⟨text, told, ends⟩ := conclude_of_sized sized (.raised e') now
      have first : pieces host screen files arguments = .ok ([] ++ page :: []) := planned
      exact ⟨1, "", text, .refused first (by simp) takes told, by rw [breaks]; simp [ends]⟩
  | none =>
    have planned : pieces host screen files arguments = .error stop := by
      rw [pieces, replied]
      simp only [asked]
    cases stop with
    | helped callee => cases asked
    | completed text =>
      cases asked
      exact ⟨1, "", "", .stopped planned .completed,
        by rw [String.append_empty, String.append_empty]; rfl⟩
    | idle => exact ⟨2, "", _, .stopped planned .idle, by rw [String.append_empty]; rfl⟩
    | misused callee fault =>
      exact ⟨2, "", _, .stopped planned (.misused callee fault), by rw [String.append_empty]; rfl⟩
    | reported failure =>
      obtain ⟨text, told⟩ := exists_report failure screen
      refine ⟨1, "", text, .stopped planned (.reported told), ?_⟩
      rw [halt_reported, tell_of_report sized told]
      rw [String.append_empty]
      rfl
    | failed failure =>
      obtain ⟨text, told, ends⟩ := conclude_of_sized sized failure now
      refine ⟨1, "", text, .stopped planned (.failed told), ?_⟩
      rw [String.append_empty]
      exact ends

/-- On a terminal whose size can be told, every call ends with a status. -/
theorem run_ends {host : Host} {screen : Screen} (sized : host.screen = .ok screen)
    (arguments : List String) (s : Scene) :
    ∃ status out err logged, Ends host screen s.files arguments status out err ∧
      (run host arguments s).1 = .exited status ∧
      (run host arguments s).2.out = s.out ++ out ∧
      (run host arguments s).2.err = s.err ++ logged ++ err := by
  obtain ⟨now, logged, same, later, whole⟩ := on_work host arguments s
  have ended : ∃ status out err, Ends host screen s.files arguments status out err ∧
      run host arguments s =
        (.exited status, { now with out := now.out ++ out, err := now.err ++ err }) := by
    rw [run_eq, whole]
    cases replied : reply host s.files arguments with
    | ok answer =>
      rw [on_bind_ok (on_settle_ok host answer now)]
      exact ends_of_report sized replied now
    | error stop =>
      rw [on_bind_error (on_settle_error host stop now)]
      exact ends_of_stop sized replied now
  obtain ⟨status, out, err, ends, ended⟩ := ended
  refine ⟨status, out, err, logged, ends, ?_, ?_, ?_⟩ <;> rw [ended]
  · rw [same]
  · rw [later]

end Provenance.CommandLine
