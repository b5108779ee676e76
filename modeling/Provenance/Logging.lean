import Provenance.Environment
import Provenance.Log
import Provenance.Text.Case
import Provenance.Text.Digits

/-!
Logging: which messages are written, in which form, and to which streams. Loggers form a tree below
the root logger; what is not settled at a logger is settled at those above it. Setting logging up
replaces the level and the receivers of the root logger and touches no other logger.
-/
namespace Provenance.Logging

/-- A level as it is asked for. -/
inductive LevelChoice where
  | number (n : Int)
  | named (s : String)
  deriving DecidableEq, Repr

/-- The levels that have names. -/
def namedLevels : List (String × Int) :=
  [("CRITICAL", 50), ("FATAL", 50), ("ERROR", 40), ("WARNING", 30), ("WARN", 30), ("INFO", 20),
    ("DEBUG", 10), ("NOTSET", 0)]

/-- The level below which messages are not written unless something else is asked for. -/
def warning : Int := 30

/-- The level of messages that only debugging asks for. -/
def debugging : Int := 10

/-- The level that a text stands for: a name in any letter case, a number, and else a warning. -/
def levelOfText (s : String) : Int :=
  match namedLevels.lookup (Text.upper s) with
  | some n => n
  | none =>
    match Text.readNumber s.toList with
    | .value n => n
    | .tooLong _ | .malformed => warning

/-- The level that is asked for. -/
def LevelChoice.level : LevelChoice → Int
  | .number n => n
  | .named s => levelOfText s

/-- The name that a level is shown with, if it can be shown. -/
def levelName : Int → Except Raised String
  | 50 => .ok "CRITICAL"
  | 40 => .ok "ERROR"
  | 30 => .ok "WARNING"
  | 20 => .ok "INFO"
  | 10 => .ok "DEBUG"
  | 0 => .ok "NOTSET"
  | n => (Text.decimal n).map ("Level " ++ ·)

/-- The level that takes effect: the one that is asked for, else that of the variable for it, else
debugging if a variable or the switch says so. -/
def effectiveLevel (env : Environment) (debug : Value) (choice : Option LevelChoice) : Int :=
  match choice with
  | some choice => choice.level
  | none =>
    match env.get? "REVERSETREE_LOG_LEVEL" with
    | some s => if s = "" then fallback else levelOfText s
    | none => fallback
where
  /-- The level without a level in a variable. -/
  fallback : Int :=
    let word := Text.lower ((env.get? "REVERSETREE_DEBUG").getD "")
    if word ∈ ["true", "1", "yes"] || debug.isTruthy then debugging else warning

/-! ## Messages and receivers -/

/-- A message at a level for the logger of a name. Its text is put together when it is written. -/
structure Message where
  logger : String
  level : Int
  text : Except Raised String

/-- The name of the logger as it is shown. -/
def Message.name (m : Message) : String := if m.logger = "" then "root" else m.logger

/-- The form in which a message is written: its text alone, or with the name of its logger, or with
time and level, too. -/
inductive Form where
  | bare | named | detailed
  deriving DecidableEq, Repr

/-- A line in a form. The time is not told. -/
def Form.line (form : Form) (logger level text : String) : String :=
  match form with
  | .bare => s!"{text}\n"
  | .named => s!"{logger}: {text}\n"
  | .detailed => s!"<time> {logger} [{level}] {text}\n"

/-- A receiver of messages: it writes those from its level on to a stream. -/
structure Handler where
  stream : Nat
  level : Int
  form : Form
  deriving DecidableEq, Repr

/-- The number of the standard error stream. -/
def errorStream : Nat := 2

/-- What the streams make of a line: it is taken as a whole, or an error is raised. -/
abbrev Streams := Nat → String → Except Raised Unit

/-- What is written in place of a message whose text cannot be put together, or that the stream does
not take. Where in the program that happened is not told. -/
def complaint (e : Raised) : String := s!"--- Logging error ---\n{e.kind}: {e.message}\n"

/-- The line that a receiver writes for a message at a level of a name. -/
def Handler.emit (h : Handler) (streams : Streams) (level : String) (m : Message) :
    Except Raised String := do
  let line := h.form.line m.name level (← m.text)
  streams h.stream line
  return line

/-- What comes of a message at a level of a name that a receiver writes, and in which stream. -/
def Handler.write (h : Handler) (streams : Streams) (level : String) (m : Message) : Nat × String :=
  match h.emit streams level m with
  | .ok line => (h.stream, line)
  | .error e => (errorStream, complaint e)

/-- The receiver of messages that there is no other receiver for. -/
def lastResort : Handler := ⟨errorStream, warning, .bare⟩

/-! ## Loggers -/

/-- What is set at a logger. A level of zero is none of its own. -/
structure Node where
  level : Int := 0
  handlers : List Handler := []
  /-- Whether messages are handed on to the loggers above. -/
  propagates : Bool := true
  isDisabled : Bool := false
  /-- Whether the filters let a message through. -/
  admits : Message → Bool := fun _ => true

namespace Node

/-- A logger with another level. -/
def withLevel (node : Node) (level : Int) : Node := { node with level := level }

/-- A logger without its receivers. -/
def clear (node : Node) : Node := { node with handlers := [] }

/-- A logger with one more receiver. -/
def add (node : Node) (h : Handler) : Node := { node with handlers := node.handlers ++ [h] }

end Node

/-- The names of the loggers from one on outward: its own name, and the parts of it in front of a
dot, the longest first. The root logger is left out. -/
def lineage (name : String) : List String :=
  if name = "root" then []
  else
    let fields := Text.fieldsOf '.' name
    ((List.range fields.length).reverse.map fun n => Text.ofFields '.' (fields.take (n + 1))).filter
      (· ≠ "")

/-- The loggers: the root logger, those with a name, and the names from a logger on outward; and
the streams that their receivers write to. -/
structure Loggers where
  root : Node := { level := warning }
  named : String → Node := fun _ => {}
  outward : String → List String := lineage
  streams : Streams := fun _ _ => .ok ()

namespace Loggers

/-- The loggers between one and the root logger, itself included unless it is the root logger. -/
def below (loggers : Loggers) (name : String) : List Node :=
  (loggers.outward name).map loggers.named

/-- The loggers from one on outward, up to the root logger. -/
def path (loggers : Loggers) (name : String) : List Node :=
  loggers.below name ++ [loggers.root]

/-- The logger of a name. -/
def own (loggers : Loggers) (name : String) : Node :=
  (loggers.below name).headD loggers.root

end Loggers

/-- The level that takes effect where a message passes loggers: that of the first which has one. -/
def levelOn (path : List Node) : Int :=
  ((path.map Node.level).find? (· ≠ 0)).getD 0

/-- The receivers that a message comes to where it passes loggers: those of each logger up to the
first that does not hand it on. -/
def handlersOn : List Node → List Handler
  | [] => []
  | node :: rest => node.handlers ++ if node.propagates then handlersOn rest else []

/-- What a message makes receivers write, and to which streams. Levels below one are never
written. -/
def Loggers.write (loggers : Loggers) (m : Message) : Except Raised (List (Nat × String)) := do
  let path := loggers.path m.logger
  let own := loggers.own m.logger
  if own.isDisabled ∨ m.level < 1 ∨ m.level < levelOn path then return []
  let level ← levelName m.level
  if !own.admits m then return []
  let handlers := handlersOn path
  let handlers := if handlers.isEmpty then [lastResort] else handlers
  return (handlers.filter fun h => h.level ≤ m.level).map (·.write loggers.streams level m)

/-! ## Setting logging up -/

/-- What logging is set up from: the environment, the stream to write to, the switch for debugging,
and the level that is asked for. -/
structure Setup where
  env : Environment
  stream : Nat
  debug : Value
  choice : Option LevelChoice
  deriving Repr

namespace Setup

/-- The level that logging is set up with. -/
def level (s : Setup) : Int := effectiveLevel s.env s.debug s.choice

/-- The receiver that is set up. Time and level are shown from debugging down. -/
def handler (s : Setup) : Handler where
  stream := s.stream
  level := s.level
  form := if s.level ≤ debugging then .detailed else .named

/-- The text of the report that logging was set up with a level of a name. -/
def reportText (s : Setup) (level : String) : Except Raised String :=
  s.debug.shown.map fun debug => s!"Logging configured: level={level}, debug={debug}"

end Setup

/-- A text that a part of the library reports, as a message. -/
def messageOf (severity : Severity) (logger : Logger) (text : Except Raised String) : Message where
  logger := logger.name
  level :=
    match severity with
    | .debug => debugging
    | .warning => warning
  text := text

/-- The loggers once logging is set up: what the root logger wrote to before is given up. -/
def Loggers.setUp (loggers : Loggers) (s : Setup) : Loggers :=
  { loggers with root := ((loggers.root.withLevel s.level).clear).add s.handler }

/-- Sets logging up and reports it: the answer is the level, unless the level has no name. -/
def Loggers.configure (loggers : Loggers) (s : Setup) :
    Except Raised (Int × List (Nat × String)) × Loggers :=
  let now := loggers.setUp s
  (do
    let level ← levelName s.level
    let written ← now.write (messageOf .debug .setup (s.reportText level))
    return (s.level, written), now)

end Provenance.Logging
