import TextScopes.Grammar.Load
import TextScopes.Registry
import TextScopes.Theme
import TextScopes.Proofs.Text.Boundary
import TextScopes.Proofs.Text.Word
import TextScopes.Proofs.Regex.Progress
import TextScopes.Proofs.Regex.Groups
import TextScopes.Proofs.Regex.Hits
import TextScopes.Proofs.Regex.Line
import TextScopes.Proofs.Regex.LineHits
import TextScopes.Proofs.Regex.Words
import TextScopes.Proofs.Regex.Search
import TextScopes.Proofs.Regex.Prefers
import TextScopes.Proofs.Regex.Numbering
import TextScopes.Proofs.Grammar.Sound
import TextScopes.Proofs.Grammar.Expand
import TextScopes.Proofs.Grammar.DepthFirst
import TextScopes.Proofs.Grammar.Resolve
import TextScopes.Proofs.Grammar.WellFormed
import TextScopes.Proofs.Grammar.Encode
import TextScopes.Proofs.Grammar.Build
import TextScopes.Proofs.Grammar.Includes
import TextScopes.Proofs.Grammar.Growth
import TextScopes.Proofs.Span.Nesting
import TextScopes.Proofs.Span.Order
import TextScopes.Proofs.Candidate
import TextScopes.Proofs.Stream
import TextScopes.Proofs.Sort
import TextScopes.Proofs.Tokenizer.Captures
import TextScopes.Proofs.Tokenizer.Nesting
import TextScopes.Proofs.Tokenizer.Shift
import TextScopes.Proofs.Tokenizer.Lines
import TextScopes.Proofs.Tokenizer.Stretch
import TextScopes.Proofs.Tokenizer.Level
import TextScopes.Proofs.Tokenizer.Refinement
import TextScopes.Proofs.Tokenizer.Spans
import TextScopes.Proofs.Tokenizer.Choice
import TextScopes.Proofs.Run.Tiles
import TextScopes.Proofs.Run.Closing
import TextScopes.Proofs.Run.Flatten
import TextScopes.Proofs.Run.Merge
import TextScopes.Proofs.Highlight
import TextScopes.Proofs.Builtin.Ini
import TextScopes.Proofs.Builtin.JsonRules
import TextScopes.Proofs.Builtin.JsonText
import TextScopes.Proofs.Builtin.JsonPatterns
import TextScopes.Proofs.Builtin.JsonTokens
import TextScopes.Proofs.Builtin.JsonReading
import TextScopes.Proofs.Builtin.JsonRegions
import TextScopes.Proofs.Builtin.Json
import TextScopes.Proofs.Grammar.ScanOrder
import TextScopes.Proofs.Tokenizer.Active
import TextScopes.Proofs.Grammar.RuleTree
import TextScopes.Proofs.Grammar.PostOrder
import TextScopes.Proofs.Grammar.ReadBack
import TextScopes.Proofs.Grammar.Renumber
import TextScopes.Proofs.Tokenizer.Renumber
import TextScopes.Proofs.Grammar.Paths
import TextScopes.Proofs.Grammar.Rename
import TextScopes.Proofs.Tokenizer.Reachable
import TextScopes.Proofs.Partial
import TextScopes.Proofs.Regex.Restart
import TextScopes.Proofs.Run.Partial
import TextScopes.Proofs.Run.Pieces
import TextScopes.Proofs.Run.Partition
import TextScopes.Proofs.Run.Regroup
import TextScopes.Proofs.Grammar.Indexed
import TextScopes.Proofs.Grammar.Partial
import TextScopes.Proofs.Tokenizer.Partial
import TextScopes.Proofs.Safety
import TextScopes.Proofs.Theme
import TextScopes.Proofs.Registry
import TextScopes.Proofs.Registry.FileTypes
import TextScopes.Proofs.Document.Sorted
import TextScopes.Proofs.Document.Outline
import TextScopes.Proofs.Document.Record
import TextScopes.Proofs.Document.Agreement
import TextScopes.Proofs.Grammar.Load
import TextScopes.Proofs.Tokenizer.Brackets
import TextScopes.Proofs.Tokenizer.Origin
import TextScopes.Proofs.Builtin.Jsonc
import TextScopes.Proofs.Text.Blank
import TextScopes.Proofs.Result.First
import TextScopes.Proofs.Grammar.CaptureTable
import TextScopes.Proofs.Grammar.RuleFaults
import TextScopes.Proofs.Grammar.FirstFault
import TextScopes.Proofs.Tokenizer.Enclosing
import TextScopes.Proofs.Stream.Order
