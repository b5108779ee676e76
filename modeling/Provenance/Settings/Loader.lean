import Provenance.Failure
import Provenance.Text.Lines
import Provenance.Yaml.Document

/-!
Loaders of settings files. What a loader makes of an open file is its own affair: it may tell that
the document is malformed, and it may fail in any other way, at any point of the file. Loading
settings takes the loader as a parameter; the program uses the loader of YAML documents.
-/
namespace Provenance.Settings

/-- Why a loader gives no value for an open file. -/
inductive LoadFault where
  /-- The document is malformed, and the loader tells so. -/
  | malformed (detail : String)
  | undecodable (fault : Text.Utf8.Fault)
  /-- Any other failure: of a value that does not exist, or of the loader itself. -/
  | raised (e : Raised)
  deriving DecidableEq, Repr

/-- The failure that loading the settings file at a place ends in. Only a malformed document is
reported as one. -/
def LoadFault.failure (p : Path) : LoadFault → Failure
  | .malformed detail => .diagnosed (.badConfig p.text detail (some (.malformedDocument detail)))
  | .undecodable fault => .undecodable fault
  | .raised e => .raised e

/-- Loads the document in an open file of the given bytes. -/
abbrev Loader := List UInt8 → Except LoadFault Value

namespace Loader

/-- The number of bytes that a settings file is read in at a time. -/
def blockSize : Nat := 8192

/-- The wording for a document that is not well formed. -/
def malformedDetail : String := "<yaml>"

/-- The fault of a document as the fault of its loader. -/
def ofFault : Yaml.Fault → LoadFault
  | .malformed => .malformed malformedDetail
  | .noSuchValue e => .raised e

/-- Loads a YAML document. -/
def yaml : Loader := fun bytes => do
  let text ← (Text.Utf8.decodeBlocks blockSize bytes).mapError .undecodable
  (Yaml.load (Text.universalNewlines text)).mapError ofFault

end Loader

end Provenance.Settings
