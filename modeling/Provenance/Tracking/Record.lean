import Provenance.FileSystem.Operations
import Provenance.Artifact.Repository
import Provenance.Tracking.Chain
import Provenance.Text.Lines

/-!
Records: for one artifact and one request root, the lines of the chain that led from the root to
the artifact. A record is a file of the tracking directory, named for the root, with a line feed
after every line.
-/
namespace Provenance

/-- One record: the name of its file, and its lines. -/
structure Record where
  rootKey : String
  lines : List Wording
  deriving DecidableEq, Repr

/-- The name of the file for a request root: its text with underscores for colons. -/
def RequestRoot.fileName (root : RequestRoot) : String :=
  Text.exchange ':' '_' root.text

namespace Record

/-- The number of ancestors between the artifact and the root. -/
def depth (r : Record) : Nat := r.lines.length - 1

/-- The lines as levels and texts. -/
def entries (r : Record) : List (Nat × Wording) := r.lines.map entryOf

/-- The bytes of the file that holds the given lines. -/
def encode (lines : List Wording) : Except Text.EncodeFault (List UInt8) :=
  Wording.encode (Text.terminated (.char '\n') lines)

/-- What comes into the file that is opened for the given lines: their bytes, or nothing if they
have none. -/
def bytes (lines : List Wording) : List UInt8 := (encode lines).toOption.getD []

/-- The lines in the bytes of a file, whichever line ends it uses. -/
def decode (bytes : List UInt8) : Except Text.Utf8.Fault (List Wording) :=
  (Text.Utf8.decode bytes).map fun s =>
    (Text.splitLines (Text.universalNewlines s)).map Wording.ofChars

end Record

/-- The directory of the records beside an artifact's file. -/
def trackingBeside (file : Path) : Path :=
  file.parent.child trackingName

/-- The path of the record of a request root beside an artifact's file. -/
def recordPath (file : Path) (root : RequestRoot) : Path :=
  (trackingBeside file).child root.fileName

end Provenance
