/-!
What the library reports about its own work.
-/
namespace Provenance

/-- The parts of the library that report. -/
inductive Logger where
  | events | listener | writer | setup
  deriving DecidableEq, Repr

/-- The name under which a part reports. -/
def Logger.name : Logger → String
  | .events => "reversetree.resolution.events"
  | .listener => "reversetree.tracking.listener"
  | .writer => "reversetree.tracking.writer"
  | .setup => "reversetree.foundation.logging"

/-- How much a report matters. -/
inductive Severity where
  | debug | warning
  deriving DecidableEq, Repr

/-- The name of a severity. -/
def Severity.name : Severity → String
  | .debug => "DEBUG"
  | .warning => "WARNING"

/-- One report. -/
structure LogEntry where
  severity : Severity
  logger : Logger
  message : String
  deriving DecidableEq, Repr

/-- A report that only debugging asks for. -/
def LogEntry.debug (logger : Logger) (message : String) : LogEntry := ⟨.debug, logger, message⟩

/-- A report as one line. -/
def LogEntry.text (entry : LogEntry) : String :=
  s!"{entry.severity.name} {entry.logger.name}: {entry.message}"

end Provenance
