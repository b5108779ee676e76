import Provenance.Artifact.Basic
import Provenance.CommandLine.Command
import Provenance.Text.Similar

/-!
What may be wrong with the arguments of a call, and how that is worded.
-/
namespace Provenance.CommandLine

/-- What is wrong with the arguments of a call. -/
inductive UsageFault where
  | noSuchOption (name : String) (similar : List String)
  | valueMissing (name : String)
  | valueUnwanted (name : String)
  | wrongPath (option : Opt) (kind : PathKind) (path : String)
  | operandMissing (name : String)
  | operandsUnwanted (operands : List String)
  | badCoordinates (coordinates : String)
  | commandMissing
  | noSuchCommand (name : String)
  deriving DecidableEq, Repr

namespace UsageFault

/-- The given names in increasing order, as a question after a sentence. -/
def suggestion (kind : String) (names : List String) : String :=
  match (names.mergeSort fun a b => decide (a ≤ b)).map Text.quoted with
  | [] => ""
  | [name] => s!" Did you mean {name}?"
  | names =>
    let listed := ", ".intercalate names
    s!" (Possible {kind}: {listed})"

/-- The fault in words. -/
def message : UsageFault → String
  | .noSuchOption name similar =>
    s!"No such option {Text.quoted name}." ++ suggestion "options" similar
  | .valueMissing name => s!"Option {Text.quoted name} requires an argument."
  | .valueUnwanted name => s!"Option {Text.quoted name} does not take a value."
  | .wrongPath option kind path =>
    let names := " / ".intercalate (option.names.map Text.quoted)
    s!"Invalid value for {names}: {kind.title} {Text.quoted path} is a {kind.contrary.word}."
  | .operandMissing name => s!"Missing argument {Text.quoted name}."
  | .operandsUnwanted operands =>
    let noun := if operands.length = 1 then "argument" else "arguments"
    let listed := Text.ofFields ' ' operands
    s!"Got unexpected extra {noun} ({listed})"
  | .badCoordinates coordinates => s!"Invalid value for COORDS: {Artifact.refusal coordinates}"
  | .commandMissing => "Missing command."
  | .noSuchCommand name =>
    s!"No such command {Text.quoted name}." ++
      suggestion "commands" ((Command.all.map Command.name).filter (Text.isClose · name))

/-- Whether the report of a fault recalls the usage. A value that is missing, or that is not
wanted, is reported alone. -/
def recallsUsage : UsageFault → Bool
  | .valueMissing _ | .valueUnwanted _ => false
  | _ => true

/-- The report of a fault in a call. -/
def report (callee : Callee) (fault : UsageFault) : String :=
  let recalled := callee.usage ++ "\nTry '" ++ callee.title ++ " --help' for help.\n\n"
  (if fault.recallsUsage then recalled else "") ++ s!"Error: {fault.message}\n"

end UsageFault

end Provenance.CommandLine
