import Provenance.Artifact.Basic
import Provenance.Text.Quoted

/-!
The local repository: where the files of an artifact lie below a base directory, and which
coordinates a directory of it belongs to.
-/
namespace Provenance

/-- A local cache of artifacts below one directory. -/
structure Repository where
  base : Path
  deriving DecidableEq, Repr

/-- The name of the directory that holds the records of an artifact, beside its files. -/
def trackingName : String := ".tracking"

namespace Repository

/-- The directory of an artifact: one level per segment of the group, then the artifact's name,
then its version. -/
def directoryOf (r : Repository) (a : Artifact) : Path :=
  (((Text.fieldsOf '.' a.group).foldl Path.child r.base).child a.name).child a.version

/-- The name of the file that holds an artifact. -/
def fileNameOf (a : Artifact) : String :=
  a.name ++ "-" ++ a.version ++ (if a.classifier = "" then "" else "-" ++ a.classifier) ++ "." ++
    Artifact.extensionOr a.extension

/-- The path of the file that holds an artifact. -/
def pathOf (r : Repository) (a : Artifact) : Path :=
  (r.directoryOf a).child (fileNameOf a)

/-- The directory of the records of an artifact. -/
def trackingOf (r : Repository) (a : Artifact) : Path :=
  (r.directoryOf a).child trackingName

/-- Whether the file of an artifact lies in the repository. Both paths are normalized, and the text
of the one has to begin with the text of the other. -/
def holds (r : Repository) (a : Artifact) : Bool :=
  match a.file with
  | none => false
  | some file => file.startsAt r.base

/-- The coordinates `group:artifact:version` of the parts that lead to a directory; fewer than
three parts name no artifact and are shown as a path. -/
def coordinatesOfParts (parts : List String) : String :=
  match parts.reverse with
  | version :: name :: group :: groups =>
    Text.ofFields '.' (group :: groups).reverse ++ ":" ++ name ++ ":" ++ version
  | _ => Text.ofFields '/' parts

/-- The coordinates that a directory of the repository belongs to. -/
def coordinatesOf? (r : Repository) (directory : Path) : Option String :=
  (directory.below? r.base).map coordinatesOfParts

/-- Why a directory has no coordinates in a repository, in words. -/
def outside (r : Repository) (directory : Path) : String :=
  let base := if r.base.isAbsolute then r.base.text else Text.ofFields '/' r.base.parts
  s!"{Text.quoted directory.text} is not in the subpath of {Text.quoted base}" ++
    " OR one path is relative and the other is absolute."

end Repository

end Provenance
