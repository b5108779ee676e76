import Provenance.CommandLine.Option

/-!
What can be called, the program and its commands, and how each is described.
-/
namespace Provenance.CommandLine

/-- The commands: to list all artifacts with records, and to explain one artifact. -/
inductive Command where
  | list | explain
  deriving DecidableEq, Repr

namespace Command

/-- The commands in the order of their names. -/
def all : List Command := [.list, .explain]

/-- The name of a command. -/
def name : Command → String
  | .list => "list"
  | .explain => "show"

/-- The command that has a name. -/
def ofName? (name : String) : Option Command :=
  all.find? fun command => command.name = name

/-- A command in one sentence. -/
def summary : Command → String
  | .list => "List artifacts that carry reverse tree records."
  | .explain => "Show why an artifact was resolved."

end Command

/-- A paragraph of a description: words to be filled into lines, or lines that stay as they are. -/
inductive Paragraph where
  | flowing (s : String)
  | fixed (lines : List String)
  deriving DecidableEq, Repr

/-- What is called: the program itself, or one of its commands. -/
inductive Callee where
  | program
  | command (c : Command)
  deriving DecidableEq, Repr

namespace Callee

/-- The words that call it. -/
def title : Callee → String
  | .program => "reversetree"
  | .command c => "reversetree " ++ c.name

/-- The operands it takes, by name. -/
def operands : Callee → List String
  | .program | .command .list => []
  | .command .explain => ["COORDS"]

/-- What may follow the words that call it. -/
def arguments : Callee → List String
  | .program => ["[OPTIONS]", "COMMAND", "[ARGS]..."]
  | callee => "[OPTIONS]" :: callee.operands

/-- How it is called, in one line. -/
def usage (callee : Callee) : String :=
  "Usage: " ++ Text.ofFields ' ' (callee.title :: callee.arguments)

/-- The options it takes. -/
def options : Callee → List Opt
  | .program => [.debug, .config, .help]
  | .command _ => [.repo, .json, .help]

/-- What it does. -/
def about : Callee → List Paragraph
  | .program =>
    [.flowing "Inspect dependency provenance recorded in a local repository.",
      .flowing ("Every artifact resolved from the local repository during dependency collection " ++
        "gets a .tracking directory listing, per requesting project, the chain of " ++
        "dependencies that pulled it in.")]
  | .command .list => [.flowing Command.list.summary]
  | .command .explain =>
    [.flowing Command.explain.summary,
      .flowing ("COORDS is group:artifact:version. Prints one chain per request root, starting " ++
        "at the artifact and ending at the root project."),
      .fixed ["Examples:", "    reversetree show org.slf4j:slf4j-api:2.0.9",
        "    reversetree show com.x:lib:2.0 --repo /tmp/repo --json"]]

end Callee

end Provenance.CommandLine
