import LineLexer.Unicode.CharSet
import LineLexer.Unicode.Category
import LineLexer.Unicode.Script
import LineLexer.Unicode.CaseFold
import LineLexer.Unicode.NamedSet
import LineLexer.Text.Lowercase
import LineLexer.Pattern.Expr
import LineLexer.Pattern.Footprint
import LineLexer.Pattern.Program
import LineLexer.Pattern.Search
import LineLexer.Pattern.Error
import LineLexer.Pattern.Notation
import LineLexer.Pattern.Class
import LineLexer.Pattern.Parser
import LineLexer.Datum.Basic
import LineLexer.Datum.Json
import LineLexer.Datum.Toml
import LineLexer.SortedMap
import LineLexer.Limits
import LineLexer.Text.Bytes
import LineLexer.Text.Lines
import LineLexer.Position.Basic
import LineLexer.Position.SourceMap
import LineLexer.Diagnostics.Code
import LineLexer.Files.Fault
import LineLexer.Grammar.Error
import LineLexer.Grammar.Document
import LineLexer.Grammar.Basic
import LineLexer.Grammar.Compile
import LineLexer.Builtin.Hlasm
import LineLexer.Builtin.Jcl
import LineLexer.Builtin.Languages
import LineLexer.Grammar.Registry
import LineLexer.Position.Datum
import LineLexer.Tokenize.Token
import LineLexer.Tokenize.Error
import LineLexer.Tokenize.StateStack
import LineLexer.Tokenize.Scan
import LineLexer.Text.Quoted
import LineLexer.Diagnostics.Event
import LineLexer.Tokenize.Buffer
import LineLexer.Tokenize.Session
import LineLexer.Preferences
import LineLexer.Files.Path
import LineLexer.Diagnostics.Service
import LineLexer.Diagnostics.Collector
import LineLexer.Decimal.Fixed
import LineLexer.Diagnostics.Journal
import LineLexer.Duration
import LineLexer.Files.Error
import LineLexer.Files.Tree
import LineLexer.Grammar.Load
import LineLexer.Tokenize.Tell
import LineLexer.Files.Reader
import LineLexer.Batch.Error
import LineLexer.Batch.Config
import LineLexer.Batch.Discovery
import LineLexer.Batch.Results
import LineLexer.Batch.Schedule
import LineLexer.Batch.Run
import LineLexer.CommandLine.Options
import LineLexer.CommandLine.Command
import LineLexer.CommandLine.Help
import LineLexer.CommandLine.Render
import LineLexer.CommandLine.Run
import LineLexer.Main
import LineLexer.Proofs.Except
import LineLexer.Proofs.Grammar.Compiled
import LineLexer.Proofs.Tokenize.Scan
import LineLexer.Proofs.Tokenize.Coverage
import LineLexer.Proofs.Tokenize.StateStack
import LineLexer.Proofs.Tokenize.Derivation
import LineLexer.Proofs.Tokenize.Fresh
import LineLexer.Proofs.Tokenize.Edits
import LineLexer.Proofs.Tokenize.Tell
import LineLexer.Proofs.Tokenize.Rounds
import LineLexer.Proofs.Tokenize.Depth
import LineLexer.Proofs.Tokenize.Agreement
import LineLexer.Proofs.FirstFault
import LineLexer.Proofs.Grammar.Reach
import LineLexer.Proofs.Grammar.Validation
import LineLexer.Proofs.Tokenize.Safety
import LineLexer.Proofs.Tokenize.Touched
import LineLexer.Proofs.Tokenize.Reached
import LineLexer.Proofs.Tokenize.Reload
import LineLexer.Proofs.Batch.Outcome
import LineLexer.Proofs.Batch.Shares
import LineLexer.Proofs.Batch.Done
import LineLexer.Proofs.Batch.Workers
import LineLexer.Proofs.Pattern.Anchored
import LineLexer.Proofs.Pattern.Enclosed.Carry
import LineLexer.Proofs.Pattern.Enclosed.Notation
import LineLexer.Proofs.Pattern.Enclosed.Class
import LineLexer.Proofs.Pattern.Enclosed.Group
import LineLexer.Proofs.Pattern.Enclosed.Around
import LineLexer.Proofs.Pattern.Enclosed.Whole
import LineLexer.Proofs.Grammar.Anchoring
import LineLexer.Proofs.SortedMap
import LineLexer.Proofs.Datum.Json
import LineLexer.Proofs.Tokenize.Stored
import LineLexer.Proofs.Datum.RoundTrip
import LineLexer.Proofs.Tokenize.Correspondence
import LineLexer.Proofs.Grammar.Namesake
import LineLexer.Proofs.Grammar.Pruned
import LineLexer.Proofs.Grammar.Renamed
import LineLexer.Proofs.Position.SourceMap
import LineLexer.Proofs.Tokenize.Places
import LineLexer.Proofs.Diagnostics.Collector
import LineLexer.Proofs.Diagnostics.Logged
import LineLexer.Proofs.Files.Tree
import LineLexer.Proofs.Tokenize.Overlong
import LineLexer.Proofs.Batch.Discovery
import LineLexer.Proofs.Batch.Problems
import LineLexer.Proofs.Batch.Tally
import LineLexer.Proofs.Batch.FailFast
import LineLexer.Proofs.Tokenize.Below
import LineLexer.Proofs.CommandLine.Shown
import LineLexer.Proofs.Tokenize.Unmatched
import LineLexer.Proofs.CommandLine.Unmatched
import LineLexer.Proofs.Tokenize.OwnText
import LineLexer.Proofs.Grammar.Brackets
import LineLexer.Proofs.Tokenize.Labels
import LineLexer.Proofs.Tokenize.Checked
import LineLexer.Proofs.Files.Bounded
import LineLexer.Proofs.Words.Hlasm
import LineLexer.Proofs.Pattern.Denotes
import LineLexer.Proofs.Words.Letters
import LineLexer.Proofs.Text.Lowercase
import LineLexer.Proofs.Batch.Extensions
import LineLexer.Proofs.Grammar.Registry
import LineLexer.Proofs.Files.Reordered
import LineLexer.Proofs.Batch.Accepted
import LineLexer.Proofs.Diagnostics.Kept
import LineLexer.Proofs.Diagnostics.Report
import LineLexer.Proofs.Diagnostics.Recent
import LineLexer.Proofs.Diagnostics.Shortened
import LineLexer.Proofs.Position.Layout
import LineLexer.Proofs.Position.Search
import LineLexer.Proofs.Position.Report
import LineLexer.Proofs.Files.PathOrder
