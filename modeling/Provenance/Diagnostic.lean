import Provenance.FileSystem.Fault
import Provenance.Value

/-!
Diagnostics: coded errors with a message, hints for recovery, and a context of named values. The
message and each hint come from a template; its placeholders are replaced all at once, or not at
all if the context lacks one of them. A value that cannot be shown keeps the diagnostic from being
made.
-/
namespace Provenance

/-- The codes of diagnostics. -/
inductive ErrorCode where
  | configInvalid | repositoryNotFound | trackingDirectoryFailed | trackingWriteFailed
  deriving DecidableEq, Repr

namespace ErrorCode

/-- The number of a code. -/
def number : ErrorCode → Nat
  | .configInvalid => 5002
  | .repositoryNotFound => 7003
  | .trackingDirectoryFailed => 7004
  | .trackingWriteFailed => 7005

/-- The name of a code. -/
def name : ErrorCode → String
  | .configInvalid => "CONFIG_INVALID"
  | .repositoryNotFound => "REPOSITORY_NOT_FOUND"
  | .trackingDirectoryFailed => "TRACKING_DIR_FAILED"
  | .trackingWriteFailed => "TRACKING_WRITE_FAILED"

/-- The code that has a number. -/
def ofNumber? (n : Int) : Option ErrorCode :=
  [configInvalid, repositoryNotFound, trackingDirectoryFailed, trackingWriteFailed].find?
    fun code => (code.number : Int) = n

/-- The category of a code, told by the thousands of its number. -/
def category (code : ErrorCode) : String :=
  match code.number / 1000 with
  | 5 => "config"
  | 7 => "io"
  | _ => "unknown"

/-- The text that identifies a code in messages. -/
def identifier (code : ErrorCode) : String := s!"RT-{code.number}"

end ErrorCode

/-- A piece of a template: text that stands for itself, or the place of a named value. -/
inductive Piece where
  | words (s : String)
  | place (name : String)
  deriving DecidableEq, Repr

/-- A text with places for named values. -/
abbrev Template := List Piece

/-- Named values, in the order in which they were given. -/
abbrev Context := List (String × Value)

namespace Template

/-- A piece as it is written, with a place shown as its name in braces. -/
def pieceText : Piece → String
  | .words s => s
  | .place name => "\x7b" ++ name ++ "\x7d"

/-- A piece with the value of the context in its place. -/
def pieceIn (context : Context) : Piece → Except Raised String
  | .words s => .ok s
  | .place name =>
    match context.lookup name with
    | some value => value.placed
    | none => .error (.missingName (Text.quoted name))

/-- The template as it is written. -/
def text (template : Template) : String :=
  String.join (template.map pieceText)

/-- The template with all its places filled, or as it is written if a name is missing. Any other
error of a value in its place is passed on. -/
def fill (template : Template) (context : Context) : Except Raised String :=
  match template.mapM (pieceIn context) with
  | .ok pieces => .ok (String.join pieces)
  | .error e => if e.isMissingName then .ok template.text else .error e

end Template

namespace ErrorCode

/-- The template of the message of a code. -/
def messageTemplate : ErrorCode → Template
  | .configInvalid =>
    [.words "Invalid configuration in '", .place "path", .words "': ", .place "detail"]
  | .repositoryNotFound => [.words "Local repository not found: ", .place "path"]
  | .trackingDirectoryFailed => [.words "Failed to create tracking directory: ", .place "path"]
  | .trackingWriteFailed => [.words "Failed to write tracking file: ", .place "path"]

/-- The templates of the hints of a code. -/
def hintTemplates : ErrorCode → List Template
  | .configInvalid =>
    [[.words "Check the YAML syntax of ", .place "path"],
      [.words "Remove the file to fall back to built-in defaults"]]
  | .repositoryNotFound =>
    [[.words "Pass the repository with --repo"],
      [.words "Set local_repository in .reversetree/config.yaml or REVERSETREE_LOCAL_REPOSITORY"]]
  | .trackingDirectoryFailed =>
    [[.words "Check write permissions on the local repository"],
      [.words "Disable recording with REVERSETREE_RECORD_REVERSE_TREE=false"]]
  | .trackingWriteFailed =>
    [[.words "Check free disk space and write permissions for ", .place "path"],
      [.words "Disable recording with REVERSETREE_RECORD_REVERSE_TREE=false"]]

end ErrorCode

/-- What a diagnostic was raised for. -/
inductive Cause where
  | file (fault : WriteFault)
  | malformedDocument (detail : String)
  | stated (message : String)
  deriving DecidableEq, Repr

/-- A cause in words. -/
def Cause.message : Cause → String
  | .file fault => fault.message
  | .malformedDocument detail => detail
  | .stated message => message

/-- A coded error. It is there only with its message. -/
structure Diagnostic where
  code : ErrorCode
  context : Context
  cause : Option Cause
  message : String
  told : code.messageTemplate.fill context = .ok message
  deriving Repr

namespace Diagnostic

/-- Makes a diagnostic. -/
def make (code : ErrorCode) (context : Context) (cause : Option Cause) :
    Except Raised Diagnostic :=
  match told : code.messageTemplate.fill context with
  | .ok message => .ok ⟨code, context, cause, message, told⟩
  | .error e => .error e

/-- The hints for recovery. -/
def hints (d : Diagnostic) : Except Raised (List String) :=
  d.code.hintTemplates.mapM (·.fill d.context)

/-- The diagnostic in one line. -/
def text (d : Diagnostic) : String := s!"[{d.code.identifier}] {d.message}"

/-- The diagnostic as a literal. -/
def literal (d : Diagnostic) : Except Raised String := do
  let context ← (Value.map (d.context.map fun (name, value) => (.text name, value))).literal
  return s!"ReverseTreeError(code=<ErrorCode.{d.code.name}: {d.code.number}>, context={context})"

/-- The values of the context, each shown alone. -/
def shownContext (d : Diagnostic) : Except Raised (List (String × String)) :=
  d.context.mapM fun (name, value) => return (name, ← value.shown)

/-- A diagnostic about a path, with a detail. -/
def about (code : ErrorCode) (path detail : String) (cause : Option Cause) : Diagnostic where
  code := code
  context := [("path", .text path), ("detail", .text detail)]
  cause := cause
  message := String.join <| code.messageTemplate.map fun
    | .words s => s
    | .place name => if name = "path" then path else detail
  told := by cases code <;> rfl

/-- A diagnostic about a path, with the cause as its detail. -/
def aboutPath (code : ErrorCode) (path : String) (cause : Option Cause) : Diagnostic :=
  about code path (cause.elim "" Cause.message) cause

/-- A settings file that cannot be used. -/
def badConfig (path detail : String) (cause : Option Cause) : Diagnostic :=
  about .configInvalid path detail cause

end Diagnostic

end Provenance
