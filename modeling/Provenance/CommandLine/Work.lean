import Provenance.CommandLine.FailureReport
import Provenance.CommandLine.Help
import Provenance.CommandLine.Usage
import Provenance.Environment
import Provenance.Log
import Provenance.Settings.Load
import Provenance.Terminal.Screen

/-!
What the commands are made of: steps that look at the files, write to the two streams, and may break
off. Each piece of output is written when it is its turn, so what was written before a break stays
written.
-/
namespace Provenance.CommandLine

/-- A text stream: whether it takes other characters than those of ASCII, and what it does with a
text. A text is taken as a whole, or the stream raises an error. -/
structure Stream where
  isUnicode : Bool
  takes : String → Except Raised Unit

/-- What comes of a wish of the shell to complete a call: what is written to the error stream, and
the text that is printed. A wish that is not understood gets no text. -/
structure Completion where
  complaint : String
  text : Except Raised (Option String)

/-- Where the program runs: the variables, the loader of settings files, the standard output, the
pictures of the terminal, and what the shell gets if it wishes for a completion. -/
structure Host where
  env : Environment
  loader : Settings.Loader
  output : Stream
  picture : String → Option String
  completion : String → Completion

/-- The terminal. Its size is asked for whenever something is drawn. -/
def Host.screen (host : Host) : Except Raised Screen := do
  return ⟨← host.env.columns, host.output.isUnicode, host.picture⟩

/-- What the shell gets, if it wishes for a completion instead of a call. -/
def Host.completion? (host : Host) : Option Completion :=
  ((host.env.get? "_REVERSETREE_COMPLETE").filter (· ≠ "")).map host.completion

/-- What the program works on: the files, the settings that are kept, what was reported, and what
was written to the standard output and to the error stream. -/
structure Scene where
  files : FileSystem
  store : Settings.Store
  log : List LogEntry
  out : String
  err : String

/-- Why there is no answer to a question. -/
inductive Stop where
  /-- A help page was asked for. -/
  | helped (callee : Callee)
  /-- The shell wished for a completion, and it gets this text. -/
  | completed (text : Option String)
  /-- There are no arguments at all. -/
  | idle
  | misused (callee : Callee) (fault : UsageFault)
  /-- A failure that is reported where it is found. -/
  | reported (failure : Failure)
  /-- A failure that nothing is made of where it is found. -/
  | failed (failure : Failure)
  deriving Repr

/-- The text that is printed instead of an answer. -/
def Stop.page? (host : Host) : Stop → Option String
  | .helped callee => some (callee.page host.env.pageColumns)
  | .completed text => text
  | _ => none

/-- Why there is no answer if the shell wishes for a completion. -/
def Completion.stop (completion : Completion) : Stop :=
  match completion.text with
  | .ok text => .completed text
  | .error e => .failed (.raised e)

/-- Diagnostics are reported where they are found. -/
def Stop.ofFailure : Failure → Stop
  | .diagnosed d => .reported (.diagnosed d)
  | failure => .failed failure

/-- How work breaks off. -/
inductive Break where
  | exited (status : Nat)
  | idle
  | misused (callee : Callee) (fault : UsageFault)
  | failed (failure : Failure)
  deriving Repr

/-- The exit status of a call that failed. -/
def failureStatus : Nat := 1

/-- Work on a scene that may break off. -/
abbrev Work := ExceptT Break (StateM Scene)

/-- What comes of a step that may raise an error. -/
def expect {α : Type} : Except Raised α → Work α
  | .ok a => pure a
  | .error e => throw (.failed (.raised e))

/-- The files as they are. -/
def currentFiles : Work FileSystem := do return (← get).files

/-- Writes a text to the error stream, which takes every text. -/
def complain (text : String) : StateM Scene Unit :=
  modify fun scene => { scene with err := scene.err ++ text }

/-- Writes a text to the standard output. -/
def print (host : Host) (text : String) : Work Unit := do
  expect (host.output.takes text)
  modify fun scene => { scene with out := scene.out ++ text }

/-- What is drawn on a terminal, line by line. -/
abbrev Drawing := Screen → List (List Char)

/-- An error of a drawing that the standard output did not take. If it is one of its encoding, there
is advice in it. -/
def withAdvice (e : Raised) : Raised :=
  if e.kind = "UnicodeEncodeError" then
    { e with
      message := e.message ++
        "\n*** You may need to add PYTHONIOENCODING=utf-8 to your environment ***" }
  else e

/-- Draws on the standard output, all at once. -/
def draw (host : Host) (drawing : Drawing) : Work Unit := do
  let screen ← expect host.screen
  let text := Terminal.unlines (drawing screen)
  expect ((host.output.takes text).mapError withAdvice)
  modify fun scene => { scene with out := scene.out ++ text }

/-- Reports a failure for people. This may raise an error itself. -/
def tell (host : Host) (failure : Failure) : StateM Scene (Except Raised Unit) :=
  match failure.report host.screen false with
  | .ok report => do
    complain report
    return .ok ()
  | .error e => return .error e

/-- Prints a page, and breaks off. -/
def handOut (host : Host) (page : String) : StateM Scene Break := do
  match ← (print host page).run with
  | .ok () => return .exited 0
  | .error fault => return fault

/-- How work breaks off that gets no answer. -/
def halt (host : Host) : Stop → StateM Scene Break
  | .helped callee => handOut host (callee.page host.env.pageColumns)
  | .completed (some text) => handOut host text
  | .completed none => return .exited failureStatus
  | .idle => return .idle
  | .misused callee fault => return .misused callee fault
  | .reported failure => do
    match ← tell host failure with
    | .ok () => return .exited failureStatus
    | .error e => return .failed (.raised e)
  | .failed failure => return .failed failure

/-- Goes on with an answer, or breaks off if there is none. -/
def settle {α : Type} (host : Host) : Except Stop α → Work α
  | .ok a => pure a
  | .error stop => do throw (← halt host stop)

end Provenance.CommandLine
