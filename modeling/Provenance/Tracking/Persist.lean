import Provenance.Failure
import Provenance.Log
import Provenance.Tracking.Record

/-!
Writing records. A record is written in full every time, so the last write of a root wins. Trouble
with the files is part of the answer; what makes `persist` fail is a path with a NUL in it, or lines
that have no bytes.
-/
namespace Provenance

/-- An answer, the files that the work left, and the reports made on the way. -/
structure Effect (α : Type) where
  answer : α
  files : FileSystem
  log : List LogEntry
  deriving Repr

/-- The outcome of one write: the path of the record, and what went wrong. -/
structure Persisted where
  path : Path
  error : Option Diagnostic
  deriving Repr

/-- The diagnostic about a path that a file operation failed for. -/
def Diagnostic.ofFile (code : ErrorCode) (path : Path) (fault : WriteFault) : Diagnostic :=
  .aboutPath code path.text (some (.file fault))

/-- The outcome of a write that stopped at an operation on a path. -/
def Persisted.stopped (code : ErrorCode) (verb : String) (target subject : Path)
    (fault : WriteFault) (files : FileSystem) : Effect (Except Failure Persisted) :=
  match fault with
  | .refused .embeddedNull => ⟨.error (.file .embeddedNull), files, []⟩
  | fault =>
    ⟨.ok ⟨target, some (.ofFile code subject fault)⟩, files,
      [.debug .writer s!"Cannot {verb} {subject.text}: {fault.message}"]⟩

/-- Makes the directory of a record if needed, and writes the record over what was there. The file
is opened before the lines are made into bytes, so it is left empty if they have none. -/
def persist (disk : Disk) (files : FileSystem) (file : Path) (root : RequestRoot)
    (lines : List Wording) : Effect (Except Failure Persisted) :=
  let target := recordPath file root
  match files.makeDirectories disk target.parent with
  | (some e, files) =>
    Persisted.stopped .trackingDirectoryFailed "create" target target.parent (.refused e) files
  | (none, files) =>
    match files.write disk target (Record.bytes lines) with
    | (some fault, files) =>
      Persisted.stopped .trackingWriteFailed "write" target target fault files
    | (none, files) =>
      match Record.encode lines with
      | .ok _ => ⟨.ok ⟨target, none⟩, files, []⟩
      | .error fault => ⟨.error (.unencodable fault), files, []⟩

end Provenance
