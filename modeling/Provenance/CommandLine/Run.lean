import Provenance.CommandLine.Arguments
import Provenance.CommandLine.Report
import Provenance.Logging

/-!
Calls of the program. A call works through its steps on a scene: it reads the arguments, loads the
settings, sets up logging, and runs a command. What breaks it off is reported in the end.
-/
namespace Provenance.CommandLine

/-- Reads and checks the arguments of a callee. A wish for help comes before every other fault than
those of reading. -/
def Callee.accept (files : FileSystem) (callee : Callee) (arguments : List String) :
    Except Stop Arguments := do
  let a ← (callee.read arguments).mapError (.misused callee)
  if a.has .help then throw (.helped callee)
  match ← (a.pathFault? files callee.options).mapError fun e => .failed (.file e) with
  | some fault => throw (.misused callee fault)
  | none =>
    match callee.operandFault? a.operands with
    | some fault => throw (.misused callee fault)
    | none => return a

/-- The options of the program, the command that is called, and the arguments of the command. -/
structure Request where
  options : Arguments
  command : Command
  arguments : List String
  deriving Repr

/-- Reads the arguments of the program. What is no command is read once more, since behind two
dashes it may have the form of an option. -/
def Request.read (files : FileSystem) (arguments : List String) : Except Stop Request := do
  if arguments = [] then throw .idle
  let a ← Callee.program.accept files arguments
  match a.operands with
  | [] => throw (.misused .program .commandMissing)
  | name :: rest =>
    match Command.ofName? name with
    | some command => return ⟨a, command, rest⟩
    | none =>
      let _ ← Callee.program.accept files (name :: rest)
      throw (.misused .program (.noSuchCommand name))

/-- The artifact that an operand gives the coordinates of. -/
def artifactOf (a : Arguments) : Except Stop Artifact :=
  let coordinates := a.operands.headD ""
  match Artifact.parse coordinates with
  | some artifact => .ok artifact
  | none => .error (.misused (.command .explain) (.badCoordinates coordinates))

/-- Runs a command. Coordinates are read before the repository is looked for. -/
def Command.run (host : Host) (settings : Settings) (arguments : List String) (command : Command) :
    Work Unit := do
  let a ← settle host ((Callee.command command).accept (← currentFiles) arguments)
  match command with
  | .list =>
    let chosen := chooseRepository host.env (← currentFiles) settings (a.last? .repo)
    let repository ← settle host (chosen.mapError .ofFailure)
    let listing ← settle host ((listArtifacts (← currentFiles) repository).mapError .failed)
    (listingReport repository listing).write host (a.has .json)
  | .explain =>
    let artifact ← settle host (artifactOf a)
    let chosen := chooseRepository host.env (← currentFiles) settings (a.last? .repo)
    let repository ← settle host (chosen.mapError .ofFailure)
    let found := explainArtifact (← currentFiles) repository artifact
    let explanation ← settle host (found.mapError .failed)
    explanation.report.write host (a.has .json)

/-- Loads the settings and keeps them. -/
def loadSettings (host : Host) (explicit : Option String) : Work Settings := do
  let scene ← get
  let (loaded, store) := scene.store.load host.loader host.env scene.files explicit
  set { scene with store := store }
  settle host (loaded.mapError .ofFailure)

/-- Sets up logging and reports it. -/
def setUpLogging (host : Host) (debug : Value) : Work Unit := do
  let s : Logging.Setup := ⟨host.env, Logging.errorStream, debug, none⟩
  let (level, written) ← expect (({} : Logging.Loggers).configure s).1
  let text := (Logging.levelName level).bind s.reportText
  modify fun scene => { scene with
    log := scene.log ++ (text.toOption.map (LogEntry.debug .setup)).toList
    err := scene.err ++ String.join (written.map (·.2)) }

/-- Gives the shell what it wishes for. -/
def complete (host : Host) (completion : Completion) : Work Unit := do
  complain completion.complaint
  settle host (.error completion.stop)

/-- Answers a call. Settings are loaded and logging is set up before the arguments of the command
are read. -/
def answer (host : Host) (arguments : List String) : Work Unit := do
  let request ← settle host (Request.read (← currentFiles) arguments)
  let settings ← loadSettings host (request.options.last? .config)
  setUpLogging host (if request.options.has .debug then .bool true else settings.debug)
  request.command.run host settings request.arguments

/-- Works through a call. A wish of the shell is met before the arguments are read. -/
def work (host : Host) (arguments : List String) : Work Unit :=
  match host.completion? with
  | some completion => complete host completion
  | none => answer host arguments

/-- The exit status of a call with wrong arguments. -/
def usageStatus : Nat := 2

/-- How a call ends: with a status, or by an error that is not held back. -/
inductive Ending where
  | exited (status : Nat)
  | escaped (e : Raised)
  deriving DecidableEq, Repr

/-- What is made of a call that broke off. -/
def conclude (host : Host) : Break → StateM Scene Ending
  | .exited status => return .exited status
  | .idle => do
    complain (Callee.program.page host.env.pageColumns)
    return .exited usageStatus
  | .misused callee fault => do
    complain (String.ofList (Terminal.withoutStyles (fault.report callee).toList))
    return .exited usageStatus
  | .failed failure => do
    match ← tell host failure with
    | .ok () => return .exited failureStatus
    | .error e => return .escaped e

/-- Runs the program once. -/
def run (host : Host) (arguments : List String) : StateM Scene Ending := do
  match ← (work host arguments).run with
  | .ok () => return .exited 0
  | .error fault => conclude host fault

end Provenance.CommandLine
