import Provenance.CommandLine.Usage

/-!
Reading the arguments of a call: options with their values, and operands. An argument that begins
with a dash and is longer than the dash names an option; two dashes alone end the options. The
commands take options after operands too; for the program, the first operand ends them.
-/
namespace Provenance.CommandLine

/-- The options of a call with their values, in the order in which they were given, and its
operands. An option that takes no value has an empty one. -/
structure Arguments where
  given : List (Opt × String)
  operands : List String
  deriving DecidableEq, Repr

namespace Arguments

/-- The arguments with one more option in front. -/
def withOption (option : Opt) (value : String) (a : Arguments) : Arguments :=
  { a with given := (option, value) :: a.given }

/-- The arguments with one more operand in front. -/
def withOperand (operand : String) (a : Arguments) : Arguments :=
  { a with operands := operand :: a.operands }

/-- Whether an option was given. -/
def has (a : Arguments) (option : Opt) : Bool :=
  a.given.any (·.1 = option)

/-- The value that an option was given last. -/
def last? (a : Arguments) (option : Opt) : Option String :=
  a.given.reverse.lookup option

/-- What is wrong with the last values of the given options, as far as they take paths. -/
def pathFault? (files : FileSystem) (a : Arguments) :
    List Opt → Except FileError (Option UsageFault)
  | [] => .ok none
  | option :: options => do
    match option.takes?, a.last? option with
    | some kind, some path =>
      match ← files.entryAsWritten path with
      | some entry =>
        if kind.contrary.describes entry then return some (.wrongPath option kind path)
        else pathFault? files a options
      | none => pathFault? files a options
    | _, _ => pathFault? files a options

end Arguments

/-- An option as an argument spells it, with the value that is attached to it, if there is one. -/
structure Spelled where
  option : Opt
  name : String
  attached : Option String
  deriving DecidableEq, Repr

/-- Whether an argument names an option. -/
def namesOption (argument : String) : Bool :=
  argument.toList.head? = some '-' && argument != "-"

/-- An argument cut at its first equals sign. -/
def cutValue (argument : String) : String × Option String :=
  let name := argument.toList.takeWhile (· ≠ '=')
  (String.ofList name,
    match argument.toList.drop name.length with
    | [] => none
    | _ :: value => some (String.ofList value))

namespace Callee

/-- The long names of the options that are close to a name. -/
def similarOptions (callee : Callee) (name : String) : List String :=
  (callee.options.map Opt.long).filter (Text.isClose · name)

/-- The option that an argument names by its long name, with the value behind an equals sign. -/
def spelledLong (callee : Callee) (argument : String) : Except UsageFault Spelled :=
  let (name, value) := cutValue argument
  match callee.options.find? (·.long = name) with
  | some option => .ok ⟨option, name, value⟩
  | none => .error (.noSuchOption name (callee.similarOptions name))

/-- The option that an argument names by its letter, with the value right behind the letter. -/
def spelledShort (callee : Callee) (argument : String) : Except UsageFault Spelled :=
  let name := String.ofList (argument.toList.take 2)
  let value := argument.toList.drop 2
  match callee.options.find? (·.short? = some name) with
  | some option => .ok ⟨option, name, if value = [] then none else some (String.ofList value)⟩
  | none => .error (.noSuchOption name [])

/-- The option that an argument names. -/
def spelled (callee : Callee) (argument : String) : Except UsageFault Spelled :=
  if "--".toList.isPrefixOf argument.toList then callee.spelledLong argument
  else callee.spelledShort argument

/-- Whether options may stand after operands. -/
def mixesOperands : Callee → Bool
  | .program => false
  | .command _ => true

/-- Reads the arguments of a call. A value that is not attached to its option is the next argument,
whatever that is. -/
def read (callee : Callee) : List String → Except UsageFault Arguments
  | [] => .ok ⟨[], []⟩
  | argument :: rest =>
    if argument = "--" then .ok ⟨[], rest⟩
    else if namesOption argument then do
      let spelled ← callee.spelled argument
      match spelled.option.takes?, spelled.attached with
      | none, some _ => throw (.valueUnwanted spelled.name)
      | none, none => return (← callee.read rest).withOption spelled.option ""
      | some _, some value => return (← callee.read rest).withOption spelled.option value
      | some _, none =>
        match rest with
        | [] => throw (.valueMissing spelled.name)
        | value :: rest => return (← callee.read rest).withOption spelled.option value
    else if callee.mixesOperands then
      return (← callee.read rest).withOperand argument
    else .ok ⟨[], argument :: rest⟩

/-- What is wrong with the number of operands. The program hands its operands on to a command. -/
def operandFault? (callee : Callee) (operands : List String) : Option UsageFault :=
  match callee, callee.operands.drop operands.length, operands.drop callee.operands.length with
  | .program, _, _ => none
  | _, name :: _, _ => some (.operandMissing name)
  | _, [], [] => none
  | _, [], extra => some (.operandsUnwanted extra)

end Callee

end Provenance.CommandLine
