import Provenance.Failure
import Provenance.Json
import Provenance.Terminal.Emoji
import Provenance.Terminal.Screen
import Provenance.Terminal.Wrap

/-!
How a failure is reported, for people or as JSON. A report needs the texts of the failure, and the
terminal if it is for people; where one of these cannot be had, there is no report.
-/
namespace Provenance

/-- A diagnostic as JSON, with the text of its cause if it has one. -/
def Diagnostic.json (d : Diagnostic) : Except Raised Json := do
  let hints ← d.hints
  let context ← d.shownContext
  return .object <|
    [("error_id", .text d.code.identifier), ("code", .number d.code.number),
      ("category", .text d.code.category), ("message", .text d.message),
      ("recovery_hints", .list (hints.map .text)),
      ("context", .object (context.map fun (name, value) => (name, .text value)))] ++
    (d.cause.elim [] fun cause => [("cause", .text cause.message)])

namespace Failure

/-- A failure as JSON. -/
def json : Failure → Except Raised Json
  | .diagnosed d => d.json
  | failure => .ok (.object [("message", .text failure.message), ("type", .text failure.kind)])

/-- What a failure is called, and its message. -/
def headline : Failure → String
  | .diagnosed d => d.code.identifier ++ " " ++ d.message
  | failure => "Error " ++ failure.message

/-- The hints that come with a failure. -/
def hints : Failure → Except Raised (List String)
  | .diagnosed d => d.hints
  | _ => .ok []

/-- A failure as lines for people. Hints are numbered from one. -/
def lines (screen : Screen) (failure : Failure) : Except Raised (List (List Char)) := do
  let hints ← failure.hints
  let numbered := hints.mapIdx fun i hint =>
    s!"  {i + 1}. {Terminal.replaceEmoji screen.picture hint}"
  return Terminal.flow screen.width failure.headline ++
    (if hints.isEmpty then [] else Terminal.flow screen.width "\nWhat you can do:") ++
    numbered.flatMap (Terminal.flow screen.width)

/-- The report of a failure. -/
def report (screen : Except Raised Screen) (asJson : Bool) (failure : Failure) :
    Except Raised String := do
  if asJson then return (← failure.json).compact ++ "\n"
  else return Terminal.unlines (← failure.lines (← screen))

end Failure

end Provenance
