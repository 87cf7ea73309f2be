import Conformance.Disk
import Conformance.Main
import Conformance.Proofs.Outline.Lines
import Conformance.Proofs.Outline.Reading
import Conformance.Proofs.Outline.Layout
import Conformance.Proofs.Scope.Slots
import Conformance.Proofs.Outline.Declarations
import Conformance.Proofs.Outline.Agreement
import Conformance.Proofs.Outline.Growth
import Conformance.Proofs.Path.Joining
import Conformance.Proofs.Disk.Walk
import Conformance.Proofs.Disk.Directories
import Conformance.Proofs.Disk.Writing
import Conformance.Proofs.Disk.Straight
import Conformance.Proofs.Fixture.Comparing
import Conformance.Proofs.Fixture.Storing
import Conformance.Proofs.Fixture.Entries
import Conformance.Proofs.Fixture.RoundTrip
import Conformance.Proofs.Fixture.Preview
import Conformance.Proofs.Text.LineCuts
import Conformance.Proofs.Text.LineTable
import Conformance.Proofs.Text.Trimming
import Conformance.Proofs.Text.NormalForm
import Conformance.Proofs.Excerpt.ReportLines
import Conformance.Proofs.Excerpt.Pointing
import Conformance.Proofs.Suite.Attempts
import Conformance.Proofs.Diagnostic.Messages
import Conformance.Proofs.Diagnostic.Construction
import Conformance.Proofs.Diagnostic.Texts
import Conformance.Proofs.Json.Reading
import Conformance.Proofs.Listing.Decoding
import Conformance.Proofs.Fixture.Separation
import Conformance.Proofs.Fixture.Reordering
import Conformance.Proofs.CommandLine.Checking
import Conformance.Proofs.CommandLine.Generating
import Conformance.Proofs.Text.Renumbering
import Conformance.Proofs.CommandLine.Logging
import Conformance.Proofs.Disk.Depth
import Conformance.Proofs.Fixture.Stopping
import Conformance.Proofs.Answer.Framing
import Conformance.Proofs.Toml.Literals
import Conformance.Proofs.Toml.RootKeys
import Conformance.Proofs.Toml.Written
import Conformance.Proofs.Settings.Reading
import Conformance.Proofs.ValueType.ArgumentOrder
