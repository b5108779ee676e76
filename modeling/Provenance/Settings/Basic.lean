import Provenance.Environment
import Provenance.Text.Case

/-!
Settings: where the local repository is, whether chains are recorded, and whether debugging reports
are written. The values come from files and variables and are taken as they are.
-/
namespace Provenance

/-- The settings. -/
structure Settings where
  localRepository : Value := .text "~/.m2/repository"
  recordReverseTree : Value := .bool false
  debug : Value := .bool false
  deriving Repr

namespace Settings

/-- The settings by name. -/
inductive Field where
  | localRepository | recordReverseTree | debug
  deriving DecidableEq, Repr

/-- The name of a setting. -/
def Field.name : Field → String
  | .localRepository => "local_repository"
  | .recordReverseTree => "record_reverse_tree"
  | .debug => "debug"

/-- The setting that has a name. -/
def Field.ofName? (name : String) : Option Field :=
  [localRepository, recordReverseTree, debug].find? fun field => field.name = name

/-- The value of a setting. -/
def get (s : Settings) : Field → Value
  | .localRepository => s.localRepository
  | .recordReverseTree => s.recordReverseTree
  | .debug => s.debug

/-- The settings with one of them given a value. -/
def set (s : Settings) : Field → Value → Settings
  | .localRepository, value => { s with localRepository := value }
  | .recordReverseTree, value => { s with recordReverseTree := value }
  | .debug, value => { s with debug := value }

/-- The settings with several of them given values by name; a name that is no setting is refused. -/
def ofNames (s : Settings) : List (String × Value) → Except Failure Settings
  | [] => .ok s
  | (name, value) :: rest =>
    match Field.ofName? name with
    | none => .error (.unknownSetting name)
    | some field => (s.set field value).ofNames rest

/-- The value that the text of a variable stands for: the words for yes and no, in any letter case,
are switches, and all other text is text. -/
def switchOrText (s : String) : Value :=
  let word := Text.lower s
  if word ∈ ["true", "yes", "1"] then .bool true
  else if word ∈ ["false", "no", "0"] then .bool false
  else .text s

/-- How the names of variables that override settings begin. -/
def overrideStart : String := "REVERSETREE_"

/-- The setting that a variable overrides. -/
def Field.ofVariable? (name : String) : Option Field :=
  if overrideStart.toList.isPrefixOf name.toList then
    Field.ofName? (Text.lower (String.ofList (name.toList.drop overrideStart.length)))
  else none

/-- The value that a variable gives to a setting. The repository is taken word for word. -/
def Field.valueOf (s : String) : Field → Value
  | .localRepository => .text s
  | .recordReverseTree | .debug => switchOrText s

/-- One variable takes effect on the settings. -/
def applyVariable (s : Settings) (assignment : String × String) : Settings :=
  match Field.ofVariable? assignment.1 with
  | none => s
  | some field => s.set field (field.valueOf assignment.2)

/-- All variables take effect, in their order. -/
def applyVariables (s : Settings) (env : Environment) : Settings :=
  env.assigned.foldl applyVariable s

/-- A text as an absolute path, with `~` expanded. -/
def absolutePath (env : Environment) (files : FileSystem) (s : String) : Except Failure Path :=
  (env.expand (Path.ofText s)).map files.absolute

/-- The base directory of the local repository. -/
def repositoryPath (s : Settings) (env : Environment) (files : FileSystem) :
    Except Failure Path :=
  match s.localRepository with
  | .text value => absolutePath env files value
  | value => .error (.notAPath value)

end Settings

end Provenance
