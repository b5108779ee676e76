import Provenance.Artifact.Repository
import Provenance.Trace

/-!
Events: what a resolution engine tells its listeners.
-/
namespace Provenance

/-- The kinds of events. -/
inductive EventKind where
  | artifactResolving | artifactResolved | artifactDownloaded | metadataResolved
  deriving DecidableEq, Repr

/-- The name of a kind. -/
def EventKind.name : EventKind → String
  | .artifactResolving => "artifact_resolving"
  | .artifactResolved => "artifact_resolved"
  | .artifactDownloaded => "artifact_downloaded"
  | .metadataResolved => "metadata_resolved"

/-- The kind that has a name. -/
def EventKind.ofName? (name : String) : Option EventKind :=
  [artifactResolving, artifactResolved, artifactDownloaded, metadataResolved].find?
    fun kind => kind.name = name

/-- Something happened to an artifact in a session that works on a local repository. -/
structure Event where
  kind : EventKind
  repository : Repository
  artifact : Artifact
  trace : Trace
  deriving DecidableEq, Repr

end Provenance
