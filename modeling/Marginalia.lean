import Marginalia.Calendar.Date
import Marginalia.Calendar.Lookback
import Marginalia.Calendar.Moment
import Marginalia.Checksum
import Marginalia.CommandLine.Chunk
import Marginalia.CommandLine.Folder
import Marginalia.CommandLine.Form
import Marginalia.CommandLine.Place
import Marginalia.CommandLine.Program
import Marginalia.CommandLine.Related
import Marginalia.CommandLine.Session
import Marginalia.CommandLine.Surroundings
import Marginalia.CommandLine.Usage
import Marginalia.Context.Coupling
import Marginalia.Context.Failure
import Marginalia.Context.FanOut
import Marginalia.Context.History
import Marginalia.Context.Import
import Marginalia.Context.Listing
import Marginalia.Context.Match
import Marginalia.Context.Neighbour
import Marginalia.Context.Orchestrator
import Marginalia.Context.Reason
import Marginalia.Context.Reference
import Marginalia.Context.Retrieval
import Marginalia.Context.Scale
import Marginalia.Context.Strategy
import Marginalia.Context.Work
import Marginalia.Diff.Basic
import Marginalia.Diff.Chunk
import Marginalia.Diff.Position
import Marginalia.Diff.Printer
import Marginalia.Diff.Reader
import Marginalia.Family
import Marginalia.Json.Reader
import Marginalia.Json.Writer
import Marginalia.Main
import Marginalia.Missing
import Marginalia.Notice
import Marginalia.Number.Binary
import Marginalia.Number.Shortest
import Marginalia.Number.Total
import Marginalia.Path
import Marginalia.Proofs.Context.AliasedImport
import Marginalia.Proofs.Context.AllOrNothing
import Marginalia.Proofs.Context.CoChange
import Marginalia.Proofs.Context.Course
import Marginalia.Proofs.Context.Distinct
import Marginalia.Proofs.Context.ExactScale
import Marginalia.Proofs.Context.FanOut
import Marginalia.Proofs.Context.Filing
import Marginalia.Proofs.Context.ImportLine
import Marginalia.Proofs.Context.Lookback
import Marginalia.Proofs.Context.Loosening
import Marginalia.Proofs.Context.Merging
import Marginalia.Proofs.Context.Reckoning
import Marginalia.Proofs.Context.Referring
import Marginalia.Proofs.Context.Registration
import Marginalia.Proofs.Context.RelativeImport
import Marginalia.Proofs.Context.RelativeSource
import Marginalia.Proofs.Context.Resolution
import Marginalia.Proofs.Context.Selection
import Marginalia.Proofs.Context.SourceLine
import Marginalia.Proofs.Context.TopDirectory
import Marginalia.Proofs.Diff.Accounting
import Marginalia.Proofs.Diff.Addressing
import Marginalia.Proofs.Diff.Budgeting
import Marginalia.Proofs.Diff.ChunkLookup
import Marginalia.Proofs.Diff.Chunking
import Marginalia.Proofs.Diff.Division
import Marginalia.Proofs.Diff.Header
import Marginalia.Proofs.Diff.Joining
import Marginalia.Proofs.Diff.Lookup
import Marginalia.Proofs.Diff.Ordering
import Marginalia.Proofs.Diff.Outline
import Marginalia.Proofs.Diff.Printing
import Marginalia.Proofs.Diff.Provenance
import Marginalia.Proofs.Diff.Reading
import Marginalia.Proofs.Diff.Recollection
import Marginalia.Proofs.Diff.Rewording
import Marginalia.Proofs.Diff.RoundTrip
import Marginalia.Proofs.Diff.Shown
import Marginalia.Proofs.Escape
import Marginalia.Proofs.Except
import Marginalia.Proofs.Json.Locality
import Marginalia.Proofs.Json.Nesting
import Marginalia.Proofs.Json.Token
import Marginalia.Proofs.Json.Writable
import Marginalia.Proofs.Number.Order
import Marginalia.Proofs.Number.Rounding
import Marginalia.Proofs.Occurrence
import Marginalia.Proofs.Path
import Marginalia.Proofs.Review.Acceptance
import Marginalia.Proofs.Review.Anchoring
import Marginalia.Proofs.Review.Chatter
import Marginalia.Proofs.Review.Handling
import Marginalia.Proofs.Review.Merging
import Marginalia.Proofs.Review.RealNames
import Marginalia.Proofs.Review.Regrouping
import Marginalia.Proofs.Review.Rereading
import Marginalia.Proofs.Review.Routing
import Marginalia.Proofs.Review.Telling
import Marginalia.Proofs.Settings.Defaults
import Marginalia.Proofs.Settings.Layering
import Marginalia.Proofs.Settings.Ranges
import Marginalia.Proofs.Sorting
import Marginalia.Proofs.SourceControl.Drawing
import Marginalia.Proofs.SourceControl.RoundTrip
import Marginalia.Proofs.Table
import Marginalia.Proofs.Tally
import Marginalia.Proofs.Text.Blank
import Marginalia.Proofs.Text.Lowercase
import Marginalia.Proofs.Text.Numeral
import Marginalia.Proofs.Text.Pieces
import Marginalia.Proofs.Text.SpacedWords
import Marginalia.Proofs.Text.Word
import Marginalia.Proofs.Value.Conversion
import Marginalia.Proofs.Value.KeyPath
import Marginalia.Proofs.Value.Keyed
import Marginalia.Proofs.Value.Overlay
import Marginalia.Proofs.Value.SameKey
import Marginalia.Proofs.Yaml.Keyed
import Marginalia.Review.Basic
import Marginalia.Review.Merge
import Marginalia.Review.Placement
import Marginalia.Review.Reader
import Marginalia.Settings.Basic
import Marginalia.Settings.Document
import Marginalia.SourceControl.Basic
import Marginalia.SourceControl.Commit
import Marginalia.SourceControl.Failure
import Marginalia.SourceControl.Hosted
import Marginalia.SourceControl.Local
import Marginalia.SourceControl.Token
import Marginalia.Table
import Marginalia.Text.Basic
import Marginalia.Text.Blank
import Marginalia.Text.DecimalDigit
import Marginalia.Text.Lines
import Marginalia.Text.Lowercase
import Marginalia.Text.Markup
import Marginalia.Text.Numeral
import Marginalia.Text.Printable
import Marginalia.Text.Quoted
import Marginalia.Text.Similarity
import Marginalia.Text.Utf8
import Marginalia.Text.Word
import Marginalia.Value.Basic
import Marginalia.Value.Convert
import Marginalia.Value.Overlay
import Marginalia.Yaml.Node
import Marginalia.Yaml.Plain
import Marginalia.Yaml.Reader
import Marginalia.Yaml.Scalar
import Marginalia.Yaml.Spot
import Marginalia.Yaml.Token
