import Provenance.CommandLine.Work
import Provenance.Terminal.Panel
import Provenance.Terminal.Styled
import Provenance.Terminal.Table
import Provenance.Terminal.Tree
import Provenance.Tracking.Archive

/-!
What the commands tell about a repository: the chains recorded for one artifact, and the artifacts
that have records, for people or as JSON.
-/
namespace Provenance.CommandLine

/-- The repository in a directory; the directory has to be there. -/
def openRepository (files : FileSystem) (base : Path) : Except Failure Repository := do
  if ← (files.isDirectory base).mapError .file then return ⟨base⟩
  throw (.diagnosed (.aboutPath .repositoryNotFound base.text none))

/-- The repository that a call names, or else the one of the settings. An empty name is none. -/
def chooseRepository (env : Environment) (files : FileSystem) (settings : Settings)
    (named : Option String) : Except Failure Repository := do
  match named.filter (· ≠ "") with
  | some name => openRepository files (← Settings.absolutePath env files name)
  | none => openRepository files (← settings.repositoryPath env files)

/-- What a command has to tell: as JSON, and for people, one drawing after the other. -/
structure Report where
  json : Json
  drawings : List Drawing

/-- A remark on lines of its own. -/
def remark (s : String) : Drawing := fun screen =>
  Terminal.flow screen.width (Terminal.beforeMark screen "[/yellow]" s)

/-- The records of one artifact, with the directory that they were looked for in. -/
structure Explanation where
  artifact : Artifact
  directory : Path
  records : List Record
  deriving Repr

/-- Looks up the records of an artifact. -/
def explainArtifact (files : FileSystem) (repository : Repository) (a : Artifact) :
    Except Failure Explanation := do
  let directory := repository.trackingOf a
  return ⟨a, directory, ← readRecords files directory⟩

namespace Explanation

/-- The explanation as JSON. -/
def json (e : Explanation) : Json :=
  .object [("artifact", .text e.artifact.text), ("tracking_dir", .text e.directory.text),
    ("records", .list (e.records.map fun r =>
      .object [("root", .text r.rootKey),
        ("lines", .list (r.lines.map fun line => .text line.shown))]))]

/-- The explanation for people: a heading, and then for each record its chain below its root. -/
def drawings (e : Explanation) : List Drawing :=
  if e.records.isEmpty then
    [remark s!"No reverse tree recorded for {e.artifact.text}",
      fun screen =>
        Terminal.flow screen.width "Enable record_reverse_tree and resolve the project again."]
  else
    (fun screen =>
      Terminal.panel screen s!"{e.artifact.text} ({e.records.length} roots)") ::
    e.records.map fun r screen =>
      Terminal.chain screen (r.rootKey :: r.entries.map (·.2.shown))

/-- The explanation as a report. -/
def report (e : Explanation) : Report := ⟨e.json, e.drawings⟩

end Explanation

/-- An artifact that has records: its coordinates, and the roots it was recorded for. -/
structure Listed where
  coordinates : String
  roots : List String
  deriving DecidableEq, Repr

/-- What the records of one tracking directory tell. -/
def listDirectory (files : FileSystem) (repository : Repository) (directory : Path) :
    Except Failure Listed := do
  match repository.coordinatesOf? directory.parent with
  | none => throw (.outsideRepository repository directory.parent)
  | some coordinates => return ⟨coordinates, (← readRecords files directory).map (·.rootKey)⟩

/-- The artifacts with records in a repository. -/
def listArtifacts (files : FileSystem) (repository : Repository) :
    Except Failure (List Listed) := do
  (← trackedDirectories files repository.base).mapM (listDirectory files repository)

/-- Artifacts with records as JSON. -/
def listingJson (listing : List Listed) : Json :=
  .list (listing.map fun item =>
    .object [("artifact", .text item.coordinates), ("roots", .list (item.roots.map .text))])

/-- Artifacts with records for people: a table with the number of roots of each. -/
def listingDrawing (repository : Repository) (listing : List Listed) : Drawing :=
  if listing.isEmpty then remark s!"No reverse tree records under {repository.base.text}"
  else fun screen =>
    Terminal.table screen
      [⟨"Artifact", .left, listing.map (·.coordinates)⟩,
        ⟨"Roots", .right, listing.map fun item => toString item.roots.length⟩]

/-- Artifacts with records as a report. -/
def listingReport (repository : Repository) (listing : List Listed) : Report :=
  ⟨listingJson listing, [listingDrawing repository listing]⟩

/-- Writes a report in one of its two forms. -/
def Report.write (host : Host) (asJson : Bool) (report : Report) : Work Unit :=
  if asJson then [report.json.pretty, "\n"].forM (print host)
  else report.drawings.forM (draw host)

end Provenance.CommandLine
