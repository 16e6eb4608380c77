import Conformance.Text.Blank
import Conformance.Text.Lines
import Conformance.Text.Utf8
import Conformance.Text.Span
import Conformance.Decimal.Reading
import Conformance.Decimal.Text
import Conformance.Time
import Conformance.Path
import Conformance.Files.Access
import Conformance.Files.Walk
import Conformance.Corpus
import Conformance.Fault
import Conformance.Discovery
import Conformance.Compare
import Conformance.Plan
import Conformance.Selection
import Conformance.Pipeline
import Conformance.Report.Console
import Conformance.Run
import Conformance.Config
import Conformance.Manifest.Load
import Conformance.Session
import Conformance.Main
import Conformance.Proofs.Files.Way
import Conformance.Proofs.Files.Contents
import Conformance.Proofs.Pipeline.Course
import Conformance.Proofs.Pipeline.Verdict
import Conformance.Proofs.Report.Log
import Conformance.Proofs.Run.Steps
import Conformance.Proofs.Run.Account
import Conformance.Proofs.Run.Interruption
import Conformance.Proofs.Path.Below
import Conformance.Proofs.Artifact.Claim
import Conformance.Proofs.Files.Descent
import Conformance.Proofs.Files.Growth
import Conformance.Proofs.Artifact.Folder
import Conformance.Proofs.Artifact.History
import Conformance.Proofs.Group.Graph
import Conformance.Proofs.Group.Diagnosis
import Conformance.Proofs.Expectation
import Conformance.Proofs.Manifest.Entries
import Conformance.Proofs.Manifest.Loading
import Conformance.Proofs.Selection.Firsts
import Conformance.Proofs.Selection.Planned
import Conformance.Proofs.Annotated.Pragmas
import Conformance.Proofs.Text.Lines
import Conformance.Proofs.Text.Utf8
import Conformance.Proofs.Annotated.Header
import Conformance.Proofs.Annotated.Cases
import Conformance.Proofs.Run.Independence
import Conformance.Proofs.Selection.Listing
import Conformance.Proofs.Discovery.Found
import Conformance.Proofs.Selection.Paths
import Conformance.Proofs.Session.Refusal
import Conformance.Proofs.Selection.Gate
import Conformance.Proofs.Pipeline.Modes
import Conformance.Proofs.Files.Spared
import Conformance.Proofs.Session.Outputs
import Conformance.Proofs.Files.Spelling
import Conformance.Proofs.Discovery.Inputs
import Conformance.Proofs.Pipeline.Aftermath
import Conformance.Proofs.Artifact.Nesting
import Conformance.Proofs.Annotated.Scenarios
import Conformance.Proofs.Discovery.Order
import Conformance.Proofs.Execution.Watch
import Conformance.Proofs.Artifact.Portable
import Conformance.Proofs.Artifact.Search
import Conformance.Proofs.Files.Making
import Conformance.Proofs.Session.Deadlines
import Conformance.Proofs.Session.Preparation
import Conformance.Proofs.Difference
import Conformance.Proofs.Text.Span
import Conformance.Proofs.Annotated.Breach
import Conformance.Proofs.Places
