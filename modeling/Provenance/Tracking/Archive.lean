import Provenance.Failure
import Provenance.Tracking.Record

/-!
Reading records back: the records of one tracking directory, and all tracking directories below a
base directory.
-/
namespace Provenance

/-- A path one name further down. -/
def Path.entry (p : Path) (name : String) : Path :=
  { p with parts := p.parts ++ [name] }

/-- The record in an entry of a directory, if the entry is or leads to a regular file. -/
def recordIn (fs : FileSystem) (directory : Path) (name : String) :
    Except Failure (Option Record) := do
  let path := directory.entry name
  if !(← (fs.isFile path).mapError .file) then return none
  let bytes ← (fs.read path).mapError .file
  let lines ← (Record.decode bytes).mapError .undecodable
  return some ⟨name, lines⟩

/-- The records of a directory by increasing names; none if there is no such directory. The first
file that is no text makes the whole reading fail. -/
def readRecords (fs : FileSystem) (directory : Path) : Except Failure (List Record) := do
  match ← (fs.directory? directory).mapError .file with
  | none => return []
  | some place => return (← (fs.names place).mapM (recordIn fs directory)).reduceOption

/-- The tracking directory inside a directory below `base`, as the names that lead to it from there,
if the entry is or leads to a directory. -/
def trackingIn (fs : FileSystem) (base : Path) (names : List String) :
    Except Failure (Option (List String)) := do
  let parts := names ++ [trackingName]
  if !(← (fs.isDirectory { base with parts := base.parts ++ parts }).mapError .file) then
    return none
  return some parts

/-- The tracking directories below a base directory, in increasing order of the parts of their
paths. Links on the way are not followed, but a tracking directory may be a link to a directory. A
directory that lies too deep to ask about makes the whole search fail. -/
def trackedDirectories (fs : FileSystem) (base : Path) : Except Failure (List Path) := do
  match ← (fs.directory? base).mapError .file with
  | none => return []
  | some place =>
    let found := (← (fs.directoriesFrom place).mapM (trackingIn fs base)).reduceOption
    return (found.mergeSort fun a b => decide (¬b < a)).map fun parts =>
      { base with parts := base.parts ++ parts }

end Provenance
