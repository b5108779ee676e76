import Provenance.Artifact.Basic
import Provenance.Text.Wording

/-!
Request traces: the scopes that a resolution runs in, innermost first. A scope may carry a payload;
of the payloads, a collect step says which node of a dependency graph is being read, and for whom.
-/
namespace Provenance

/-- One step of the collection of a dependency graph: the node that is read, and its ancestors from
the root that asked for the collection down to the node's parent. -/
structure CollectStep where
  context : Wording
  path : List Dependency
  node : Dependency
  deriving DecidableEq, Repr

/-- The root that asked for the collection: the node itself if it has no ancestors. -/
def CollectStep.root (step : CollectStep) : Dependency :=
  step.path.headD step.node

/-- What a scope carries. -/
inductive Payload where
  /-- A step of graph collection. -/
  | collect (step : CollectStep)
  /-- The descriptor of an artifact is fetched. -/
  | descriptor (artifact : Artifact)
  /-- An artifact is resolved outside of graph collection. -/
  | artifact (artifact : Artifact) (context : String)
  /-- Anything else; what it is does not matter to anyone here. -/
  | other
  deriving DecidableEq, Repr

/-- The scopes of a request, innermost first, each with its payload if it carries one. The empty
list is the absence of a trace. -/
abbrev Trace := List (Option Payload)

/-- The collect step that a scope carries. -/
def Payload.step? : Option Payload → Option CollectStep
  | some (.collect step) => some step
  | _ => none

/-- The innermost collect step of a trace. -/
def Trace.nearestStep? (trace : Trace) : Option CollectStep :=
  trace.findSome? Payload.step?

end Provenance
