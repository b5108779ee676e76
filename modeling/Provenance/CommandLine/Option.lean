import Provenance.FileSystem.Operations

/-!
The options of the program and what they take.
-/
namespace Provenance.CommandLine

/-- What the value of an option names: a file, which must not be a directory, or a directory, which
must not be a file. It need not be there. -/
inductive PathKind where
  | file | directory
  deriving DecidableEq, Repr

namespace PathKind

/-- The word for a kind of path. -/
def word : PathKind → String
  | .file => "file"
  | .directory => "directory"

/-- The word for a kind of path at the start of a sentence. -/
def title : PathKind → String
  | .file => "File"
  | .directory => "Directory"

/-- What stands for a path of the kind in descriptions. -/
def placeholder : PathKind → String
  | .file => "FILE"
  | .directory => "DIRECTORY"

/-- The kind that a path must not be of. -/
def contrary : PathKind → PathKind
  | .file => .directory
  | .directory => .file

/-- Whether an entry is of the kind. -/
def describes : PathKind → Entry → Bool
  | .file, .file _ => true
  | .directory, .directory => true
  | _, _ => false

end PathKind

/-- The options. -/
inductive Opt where
  | debug | config | repo | json | help
  deriving DecidableEq, Repr

namespace Opt

/-- The long name of an option. -/
def long : Opt → String
  | .debug => "--debug"
  | .config => "--config"
  | .repo => "--repo"
  | .json => "--json"
  | .help => "--help"

/-- The letter of an option that has one. An option with a letter takes a value, so nothing but the
value can follow the letter in the same argument. -/
def letter? : Opt → Option Char
  | .repo => some 'r'
  | .debug | .config | .json | .help => none

/-- The path that an option takes as its value. -/
def takes? : Opt → Option PathKind
  | .config => some .file
  | .repo => some .directory
  | .debug | .json | .help => none

/-- What an option is for. -/
def description : Opt → String
  | .debug => "Enable debug logging"
  | .config => "Config file (defaults to .reversetree/config.yaml)"
  | .repo => "Local repository (defaults to configured local_repository)"
  | .json => "Output as JSON"
  | .help => "Show this message and exit."

/-- The letter of an option as it is given. -/
def short? (option : Opt) : Option String :=
  option.letter?.map fun letter => String.ofList ['-', letter]

/-- The names of an option, the long one first. -/
def names (option : Opt) : List String :=
  option.long :: option.short?.toList

end Opt

end Provenance.CommandLine
