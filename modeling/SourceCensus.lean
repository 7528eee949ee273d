import SourceCensus.Analysis.Outcome
import SourceCensus.Analysis.Run
import SourceCensus.Category
import SourceCensus.Classification
import SourceCensus.Config.Basic
import SourceCensus.Config.Check
import SourceCensus.Config.Storage
import SourceCensus.DataFolder
import SourceCensus.FileStore
import SourceCensus.Glob
import SourceCensus.Json.Integer
import SourceCensus.Json.Reader
import SourceCensus.Json.Value
import SourceCensus.Json.Writer
import SourceCensus.Lexeme
import SourceCensus.Log.Entry
import SourceCensus.Log.Level
import SourceCensus.Log.Outlet
import SourceCensus.Log.Router
import SourceCensus.Log.Template
import SourceCensus.Mask
import SourceCensus.Number.Integer
import SourceCensus.Number.Power
import SourceCensus.Number.Rounding
import SourceCensus.Number.Shortest
import SourceCensus.Occurrence
import SourceCensus.Path
import SourceCensus.Pattern.Letter
import SourceCensus.Pattern.Matcher
import SourceCensus.Pattern.Reader
import SourceCensus.Pattern.Syntax
import SourceCensus.Rule.Assignment
import SourceCensus.Rule.Declaration
import SourceCensus.Rule.Word
import SourceCensus.Selection
import SourceCensus.Session
import SourceCensus.Stats.Basic
import SourceCensus.Stats.Deviation
import SourceCensus.Text.Blank
import SourceCensus.Text.Case
import SourceCensus.Text.CharRange
import SourceCensus.Text.Digit
import SourceCensus.Text.Identifier
import SourceCensus.Text.Line
import SourceCensus.Text.Printable
import SourceCensus.Text.Quoted
import SourceCensus.Text.Span
import SourceCensus.Text.Utf8
import SourceCensus.Text.Word
import SourceCensus.Token
import SourceCensus.Tree.Basic
import SourceCensus.Tree.Build
import SourceCensus.Tree.Collapse
import SourceCensus.Tree.Export
import SourceCensus.Tree.Survey
import SourceCensus.Tree.Traversal
import SourceCensus.Vocabulary
import SourceCensus.Workers
import SourceCensus.Proofs.Build.Assembly
import SourceCensus.Proofs.Build.Selection
import SourceCensus.Proofs.Classification.Coverage
import SourceCensus.Proofs.Collapse.Budget
import SourceCensus.Proofs.Collapse.Conservation
import SourceCensus.Proofs.Collapse.Invariant
import SourceCensus.Proofs.Collapse.Largest
import SourceCensus.Proofs.Collapse.Naive
import SourceCensus.Proofs.Collapse.Queue
import SourceCensus.Proofs.Collapse.Replay
import SourceCensus.Proofs.Collapse.Subtree
import SourceCensus.Proofs.Collapse.Pruning
import SourceCensus.Proofs.Collapse.Tightening
import SourceCensus.Proofs.Lexeme.Ends
import SourceCensus.Proofs.Lexeme.Extent
import SourceCensus.Proofs.Lexeme.Interior
import SourceCensus.Proofs.Lexeme.Quiet
import SourceCensus.Proofs.Lexeme.Scan
import SourceCensus.Proofs.Log.Handlers
import SourceCensus.Proofs.Log.SetUp
import SourceCensus.Proofs.Mask.Interior
import SourceCensus.Proofs.Mask.Remainder
import SourceCensus.Proofs.Mask.Report
import SourceCensus.Proofs.Mask.Stages
import SourceCensus.Proofs.Mask.Veil
import SourceCensus.Proofs.Number.Digits
import SourceCensus.Proofs.Number.Range
import SourceCensus.Proofs.Occurrence
import SourceCensus.Proofs.Path.Join
import SourceCensus.Proofs.Rule.Words
import SourceCensus.Proofs.Rule.Grammar
import SourceCensus.Proofs.Rule.Reading
import SourceCensus.Proofs.Rule.Parts
import SourceCensus.Proofs.Rule.Terminators
import SourceCensus.Proofs.Rule.Declaration
import SourceCensus.Proofs.Rule.Unambiguous
import SourceCensus.Proofs.Stats.Aggregation
import SourceCensus.Proofs.Stats.Merging
import SourceCensus.Proofs.Success
import SourceCensus.Proofs.Survey.Outline
import SourceCensus.Proofs.Text.Blanking
import SourceCensus.Proofs.Text.Lines
import SourceCensus.Proofs.Text.Trim
import SourceCensus.Proofs.Tree.Address
import SourceCensus.Proofs.Tree.Folder
import SourceCensus.Proofs.Tree.Leaves
import SourceCensus.Proofs.Tree.Merging
import SourceCensus.Proofs.Tree.Nodes
import SourceCensus.Proofs.Tree.Totals
import SourceCensus.Proofs.Workers
import SourceCensus.Proofs.Json.Members
import SourceCensus.Proofs.Config.Steps
import SourceCensus.Proofs.Config.Lenient
import SourceCensus.Proofs.Config.FixedPoint
import SourceCensus.Proofs.Config.Strict
import SourceCensus.Proofs.Glob.Matching
import SourceCensus.Proofs.Build.Collapsing
import SourceCensus.Proofs.FileStore.Paths
import SourceCensus.Proofs.Analysis.Measure
import SourceCensus.Proofs.Analysis.Steps
import SourceCensus.Proofs.Config.Counts
import SourceCensus.Proofs.Analysis.Summary
import SourceCensus.Proofs.Json.Readers
import SourceCensus.Proofs.Json.RoundTrip
import SourceCensus.Proofs.Text.Utf8
import SourceCensus.Proofs.FileStore.Keeping
import SourceCensus.Proofs.FileStore.Writing
import SourceCensus.Proofs.Config.Storage
import SourceCensus.Proofs.Rule.Runs
import SourceCensus.Proofs.Token
import SourceCensus.Proofs.Classification.Kinds
import SourceCensus.Proofs.Rule.Assignment
import SourceCensus.Proofs.Rule.Keywords
import SourceCensus.Proofs.Lexeme.LineBreak
import SourceCensus.Proofs.Mask.Joining
import SourceCensus.Proofs.Build.LineEndings
import SourceCensus.Proofs.Survey.Order
import SourceCensus.Proofs.Tree.Order
import SourceCensus.Proofs.Collapse.InPlace
import SourceCensus.Proofs.Build.Failure
import SourceCensus.Proofs.Pattern.Faults
import SourceCensus.Proofs.Selection.Sources
import SourceCensus.Proofs.Stats.Partition
import SourceCensus.Proofs.Text.Lookup
import SourceCensus.Proofs.Tree.Export
import SourceCensus.Proofs.FileStore.SourceText
import SourceCensus.Proofs.Text.Spans
