import Provenance.FileSystem.Operations
import Provenance.Text.Hex

/-!
Files listed as text, one line for each entry: its kind, its path and what it holds, with tabs
between them. A directory holds nothing, a file its bytes in hexadecimal digits, and a link its
target.
-/
namespace Provenance.FileSystem

/-- The files after an operation that went well. -/
def settled? {ε : Type} : Option ε × FileSystem → Option FileSystem
  | (none, fs) => some fs
  | (some _, _) => none

/-- The files with the entry of one line in addition, and the directories above it. -/
def addListed? (fs : FileSystem) (line : String) : Option FileSystem :=
  match Text.fieldsOf '\t' line with
  | ["directory", path] => settled? (fs.makeDirectories .ample (.ofText path))
  | ["file", path, digits] => do
    let bytes ← Text.bytesOfHex? digits.toList
    let fs ← settled? (fs.makeDirectories .ample (Path.ofText path).parent)
    settled? (fs.write .ample (.ofText path) bytes)
  | ["link", path, target] => do
    let fs ← settled? (fs.makeDirectories .ample (Path.ofText path).parent)
    settled? (fs.makeLink (.ofText path) target)
  | _ => none

/-- The files of a listing, seen from a working directory that is there in any case. -/
def ofListing? (working : Path) (lines : List String) : Option FileSystem := do
  let fs ← settled? (makeDirectories .ample ⟨[], []⟩ working)
  lines.foldlM addListed? { fs with working := working.parts }

end Provenance.FileSystem
