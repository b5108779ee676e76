import Provenance.Path
import Provenance.Text.Blank

/-!
Artifacts and their coordinates, `group:artifact:version[:extension[:classifier]]`. `Artifact.parse`
reads coordinates and `Artifact.text` writes them.
-/
namespace Provenance

/-- A resolvable artifact: its coordinates, and the file that holds it once it is resolved. -/
structure Artifact where
  group : String
  name : String
  version : String
  extension : String := ""
  classifier : String := ""
  file : Option Path := none
  deriving DecidableEq, Repr

/-- What identifies an artifact in a dependency graph, whatever its extension and classifier. -/
structure Identity where
  group : String
  name : String
  version : String
  deriving DecidableEq, Repr

namespace Artifact

/-- The extension that an artifact without one has. -/
def defaultExtension : String := "jar"

/-- The given extension, or the default one for the empty text. -/
def extensionOr (extension : String) : String :=
  if extension = "" then defaultExtension else extension

/-- The identity of an artifact. -/
def identity (a : Artifact) : Identity := ⟨a.group, a.name, a.version⟩

/-- The artifact of three to five fields, the first three of which are not empty. -/
def ofFields? : List String → Option Artifact
  | g :: a :: v :: rest =>
    if g = "" ∨ a = "" ∨ v = "" then none
    else
      match rest with
      | [] => some { group := g, name := a, version := v }
      | [e] => some { group := g, name := a, version := v, extension := e }
      | [e, c] => some { group := g, name := a, version := v, extension := e, classifier := c }
      | _ => none
  | _ => none

/-- Reads coordinates, with or without blanks around them. -/
def parse (coordinates : String) : Option Artifact :=
  ofFields? (Text.fieldsOf ':' (Text.strip coordinates))

/-- Why coordinates were refused, in words. -/
def refusal (coordinates : String) : String :=
  s!"Bad artifact coordinates '{coordinates}', expected g:a:v[:ext[:classifier]]"

/-- The fields that the coordinates of an artifact show: a classifier needs the extension before
it, so an empty extension is then shown as the default one. -/
def fields (a : Artifact) : List String :=
  [a.group, a.name, a.version] ++
    (if a.extension = "" ∧ a.classifier = "" then [] else [extensionOr a.extension]) ++
    (if a.classifier = "" then [] else [a.classifier])

/-- The coordinates of an artifact. -/
def text (a : Artifact) : String :=
  Text.ofFields ':' a.fields

end Artifact

/-- An element of a dependency chain: an artifact and the scope it is declared with. -/
structure Dependency where
  artifact : Artifact
  scope : String := ""
  deriving DecidableEq, Repr

/-- A dependency shows the coordinates of its artifact; the scope does not appear. -/
def Dependency.text (d : Dependency) : String := d.artifact.text

/-- What a collection was requested for. -/
inductive RequestRoot where
  | named (text : String)
  | artifact (a : Artifact)
  | dependency (d : Dependency)
  deriving DecidableEq, Repr

/-- The text of a request root. -/
def RequestRoot.text : RequestRoot → String
  | .named text => text
  | .artifact a => a.text
  | .dependency d => d.text

end Provenance
