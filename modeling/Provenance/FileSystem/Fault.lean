import Provenance.Path
import Provenance.Text.Quoted

/-!
Why a file operation is refused, or a write stops in an open file, and how that is worded.
-/
namespace Provenance

/-- What there is no more of when something is put on a disk. -/
inductive Shortage where
  | space | quota | fileSize
  deriving DecidableEq, Repr

/-- The number of a shortage. -/
def Shortage.number : Shortage → Nat
  | .fileSize => 27
  | .space => 28
  | .quota => 122

/-- A shortage in words. -/
def Shortage.text : Shortage → String
  | .fileSize => "File too large"
  | .space => "No space left on device"
  | .quota => "Disk quota exceeded"

/-- What stands in the way of a file operation. -/
inductive Fault where
  | missing | alreadyExists | notDirectory | isDirectory | nameTooLong | tooManyLinks
  /-- There is no room for a new entry. -/
  | noRoom (shortage : Shortage)
  deriving DecidableEq, Repr

/-- The number of a fault. -/
def Fault.number : Fault → Nat
  | .missing => 2
  | .alreadyExists => 17
  | .notDirectory => 20
  | .isDirectory => 21
  | .nameTooLong => 36
  | .tooManyLinks => 40
  | .noRoom shortage => shortage.number

/-- A fault in words. -/
def Fault.text : Fault → String
  | .missing => "No such file or directory"
  | .alreadyExists => "File exists"
  | .notDirectory => "Not a directory"
  | .isDirectory => "Is a directory"
  | .nameTooLong => "File name too long"
  | .tooManyLinks => "Too many levels of symbolic links"
  | .noRoom shortage => shortage.text

/-- Whether a question about a path takes the fault for the answer "there is nothing". -/
def Fault.meansAbsent : Fault → Bool
  | .missing | .notDirectory | .tooManyLinks => true
  | .alreadyExists | .isDirectory | .nameTooLong | .noRoom _ => false

/-- A refused file operation. A path with a NUL in it is refused before the files are looked at. -/
inductive FileError where
  | embeddedNull
  | refused (fault : Fault) (path : Path)
  deriving DecidableEq, Repr

/-- The refusal in words. -/
def FileError.message : FileError → String
  | .embeddedNull => "embedded null byte"
  | .refused fault path =>
    s!"[Errno {fault.number}] {fault.text}: {Text.quoted path.text}"

/-- A write that failed: the file could not be opened, or the disk did not take all of it. -/
inductive WriteFault where
  | refused (e : FileError)
  | stopped (shortage : Shortage)
  deriving DecidableEq, Repr

/-- The fault in words. A write that stopped names no path. -/
def WriteFault.message : WriteFault → String
  | .refused e => e.message
  | .stopped shortage => s!"[Errno {shortage.number}] {shortage.text}"

end Provenance
