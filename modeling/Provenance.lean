import Provenance.Artifact.Basic
import Provenance.Artifact.Repository
import Provenance.CommandLine.Arguments
import Provenance.CommandLine.Command
import Provenance.CommandLine.FailureReport
import Provenance.CommandLine.Help
import Provenance.CommandLine.Option
import Provenance.CommandLine.Report
import Provenance.CommandLine.Run
import Provenance.CommandLine.Usage
import Provenance.Diagnostic
import Provenance.Dispatcher
import Provenance.Environment
import Provenance.Event
import Provenance.Failure
import Provenance.FileSystem.Basic
import Provenance.FileSystem.Fault
import Provenance.FileSystem.Listing
import Provenance.FileSystem.Operations
import Provenance.Json
import Provenance.Log
import Provenance.Logging
import Provenance.Main
import Provenance.Number.Double
import Provenance.Path
import Provenance.Proofs.FileSystem.Walk
import Provenance.Settings.Basic
import Provenance.Settings.Load
import Provenance.Terminal.Emoji
import Provenance.Terminal.Panel
import Provenance.Terminal.Styled
import Provenance.Terminal.Table
import Provenance.Terminal.Tree
import Provenance.Terminal.Wrap
import Provenance.Text.Blank
import Provenance.Text.Case
import Provenance.Text.Cells
import Provenance.Text.Digits
import Provenance.Text.Fields
import Provenance.Text.Hex
import Provenance.Text.Lines
import Provenance.Text.Printable
import Provenance.Text.Quoted
import Provenance.Text.Similar
import Provenance.Text.Utf8
import Provenance.Trace
import Provenance.Tracking.Archive
import Provenance.Tracking.Chain
import Provenance.Tracking.Listener
import Provenance.Tracking.Persist
import Provenance.Tracking.Record
import Provenance.Value
import Provenance.Yaml.Cursor
import Provenance.Yaml.Document
import Provenance.Yaml.Node
import Provenance.Yaml.Scalar
import Provenance.Yaml.ScalarText
import Provenance.Yaml.Scanner
import Provenance.Yaml.Tag
import Provenance.Yaml.Token
import Provenance.Proofs.Steps
import Provenance.Proofs.FileSystem.Growth
import Provenance.Proofs.Path
import Provenance.Proofs.Text.Encoding
import Provenance.Proofs.Artifact.Layout
import Provenance.Proofs.FileSystem.Directory
import Provenance.Proofs.Tracking.Writing
import Provenance.Proofs.Tracking.History
import Provenance.Proofs.Tracking.Store
import Provenance.Proofs.Artifact.Coordinates
import Provenance.Proofs.FileSystem.Progress
import Provenance.Proofs.Tracking.Search
import Provenance.Proofs.Tracking.Catalogue
import Provenance.Proofs.Tracking.Listing
import Provenance.Proofs.Tracking.RootNames
import Provenance.Proofs.Artifact.Locality
import Provenance.Proofs.Tracking.Chain
import Provenance.Proofs.Tracking.Containment
import Provenance.Proofs.FileSystem.Overwrite
import Provenance.Proofs.Tracking.Reading
import Provenance.Proofs.Tracking.ReadBack
import Provenance.Proofs.Registration
import Provenance.Proofs.Artifact.Grammar
import Provenance.Proofs.Tracking.Gates
import Provenance.Proofs.Delivery
import Provenance.Proofs.Settings.Sources
import Provenance.Proofs.Settings.Typing
import Provenance.Proofs.Artifact.Directories
import Provenance.Proofs.Settings.Precedence
import Provenance.Proofs.CommandLine.Outcome
import Provenance.Proofs.Settings.Kept
import Provenance.Proofs.FileSystem.Attempt
import Provenance.Proofs.Tracking.Stopped
import Provenance.Proofs.Tracking.Rewriting
import Provenance.Proofs.Tracking.Independence
import Provenance.Proofs.Tracking.Contents
import Provenance.Proofs.Settings.Faults
import Provenance.Proofs.Logging
import Provenance.Proofs.Diagnostic
