/-!
Errors that the library neither makes nor foresees.
-/
namespace Provenance

/-- An error by the name of its kind, with its message. -/
structure Raised where
  kind : String
  message : String
  deriving DecidableEq, Repr

namespace Raised

/-- The error of a value that is not accepted. -/
def badValue (message : String) : Raised := ⟨"ValueError", message⟩

/-- The error of a name that is looked up and not found. -/
def missingName (shown : String) : Raised := ⟨"KeyError", shown⟩

/-- Whether the error tells of a name that is not found. -/
def isMissingName (e : Raised) : Bool := e.kind = "KeyError"

end Raised

end Provenance
