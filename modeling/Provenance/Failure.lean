import Provenance.Diagnostic
import Provenance.Text.Wording
import Provenance.Artifact.Repository

/-!
What an operation may end in instead of an answer.
-/
namespace Provenance

/-- An error that leaves an operation. -/
inductive Failure where
  | diagnosed (d : Diagnostic)
  | file (e : FileError)
  | undecodable (fault : Text.Utf8.Fault)
  | unencodable (fault : Text.EncodeFault)
  | badCoordinates (coordinates : String)
  | outsideRepository (repository : Repository) (directory : Path)
  | unknownCode (number : Int)
  | unknownEvent (name : String)
  | unknownSetting (name : String)
  | notAPath (value : Value)
  /-- An error that the library neither makes nor foresees. -/
  | raised (e : Raised)
  | homeUnknown
  | noFile
  | stated (message : String)
  deriving Repr

namespace Failure

/-- The failure in words. -/
def message : Failure → String
  | .diagnosed d => d.text
  | .file e => e.message
  | .undecodable fault => fault.message
  | .unencodable fault => fault.message
  | .badCoordinates coordinates => Artifact.refusal coordinates
  | .outsideRepository repository directory => repository.outside directory
  | .unknownCode number => s!"{number} is not a valid ErrorCode"
  | .unknownEvent name => s!"{Text.quoted name} is not a valid EventType"
  | .unknownSetting name =>
    s!"ReverseTreeConfig.__init__() got an unexpected keyword argument {Text.quoted name}"
  | .notAPath (.bytes _) =>
    "argument should be a str object or an os.PathLike object returning str, " ++
      "not <class 'bytes'>"
  | .notAPath value => s!"expected str, bytes or os.PathLike object, not {value.kind}"
  | .raised e => e.message
  | .homeUnknown => "Could not determine home directory."
  | .noFile => "'NoneType' object has no attribute 'parent'"
  | .stated message => message

/-- The name of the kind of failure, as reports show it. -/
def kind : Failure → String
  | .diagnosed _ => "ReverseTreeError"
  | .file .embeddedNull => "ValueError"
  | .file (.refused .missing _) => "FileNotFoundError"
  | .file (.refused .alreadyExists _) => "FileExistsError"
  | .file (.refused .notDirectory _) => "NotADirectoryError"
  | .file (.refused .isDirectory _) => "IsADirectoryError"
  | .file (.refused .nameTooLong _) | .file (.refused .tooManyLinks _)
  | .file (.refused (.noRoom _) _) => "OSError"
  | .undecodable _ => "UnicodeDecodeError"
  | .unencodable _ => "UnicodeEncodeError"
  | .badCoordinates _ | .outsideRepository .. | .unknownCode _ | .unknownEvent _ => "ValueError"
  | .unknownSetting _ | .notAPath _ => "TypeError"
  | .raised e => e.kind
  | .homeUnknown | .stated _ => "RuntimeError"
  | .noFile => "AttributeError"

end Failure

end Provenance
