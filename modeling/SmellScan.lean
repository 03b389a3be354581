import SmellScan.Analysis
import SmellScan.Cli.Analyze
import SmellScan.Cli.Arguments
import SmellScan.Cli.Menu
import SmellScan.Cli.Program
import SmellScan.Cli.Session
import SmellScan.CodeBlock
import SmellScan.Config
import SmellScan.Console.Action
import SmellScan.Console.ColorName
import SmellScan.Console.Item
import SmellScan.Console.Literal
import SmellScan.Console.Literal.Escape
import SmellScan.Console.Literal.Expr
import SmellScan.Console.Literal.Fault
import SmellScan.Console.Literal.Field
import SmellScan.Console.Literal.Grammar
import SmellScan.Console.Literal.Grammar.Argument
import SmellScan.Console.Literal.Grammar.Bracket
import SmellScan.Console.Literal.Grammar.Comprehension
import SmellScan.Console.Literal.Grammar.Operator
import SmellScan.Console.Literal.Grammar.Parameter
import SmellScan.Console.Literal.Grammar.Sequence
import SmellScan.Console.Literal.Recognizer
import SmellScan.Console.Literal.Token
import SmellScan.Console.Literal.Value
import SmellScan.Console.Markup
import SmellScan.Console.Panel
import SmellScan.Console.Prompt
import SmellScan.Console.Style
import SmellScan.Console.Wrap
import SmellScan.Discovery
import SmellScan.FileSystem
import SmellScan.FileTree
import SmellScan.Finding
import SmellScan.Host
import SmellScan.Json.Basic
import SmellScan.Json.Parser
import SmellScan.Json.Printer
import SmellScan.Language
import SmellScan.Ledger
import SmellScan.Main
import SmellScan.Nesting
import SmellScan.NodeKind
import SmellScan.Numeric.Decimal
import SmellScan.Numeric.Digits
import SmellScan.Numeric.Double
import SmellScan.Numeric.Numeral
import SmellScan.ParseTree
import SmellScan.Path
import SmellScan.PathPattern
import SmellScan.Regex.Basic
import SmellScan.Regex.Escape
import SmellScan.Regex.Group
import SmellScan.Regex.Matcher
import SmellScan.Regex.Parser
import SmellScan.Regex.Source
import SmellScan.Regex.Width
import SmellScan.Report.Basic
import SmellScan.Report.Csv
import SmellScan.Report.Display
import SmellScan.Report.Format
import SmellScan.Report.Json
import SmellScan.Report.Markdown
import SmellScan.Report.PlainText
import SmellScan.Report.Reader
import SmellScan.RunLog
import SmellScan.Similarity.EditDistance
import SmellScan.Similarity.LineCluster
import SmellScan.Similarity.Match
import SmellScan.Smell.Basic
import SmellScan.Smell.DebuggingCode
import SmellScan.Smell.DuplicateCode
import SmellScan.Smell.EmptyCatch
import SmellScan.Smell.InsecureFileHandling
import SmellScan.Smell.LargeObjects
import SmellScan.Smell.LengthyLines
import SmellScan.Smell.LongFunction
import SmellScan.Smell.LongParameterList
import SmellScan.Smell.MissingDefault
import SmellScan.Smell.NestedCallbacks
import SmellScan.Smell.Registry
import SmellScan.Smell.SensitiveInformation
import SmellScan.SourceUnit
import SmellScan.SyntaxNode
import SmellScan.Text.Blank
import SmellScan.Text.Case
import SmellScan.Text.CellWidth
import SmellScan.Text.CharacterName
import SmellScan.Text.DecimalDigit
import SmellScan.Text.Dedent
import SmellScan.Text.Identifier
import SmellScan.Text.Lines
import SmellScan.Text.Printable
import SmellScan.Text.Quoted
import SmellScan.Text.Ranges
import SmellScan.Text.Search
import SmellScan.Text.Utf8
import SmellScan.Text.Word
import SmellScan.Timestamp
import SmellScan.Workspace.Rows
import SmellScan.Workspace.Snapshot
import SmellScan.Proofs.Numeric.Rounding
import SmellScan.Proofs.Similarity.EditScript
import SmellScan.Proofs.Similarity.Matches
import SmellScan.Proofs.FirstWins
import SmellScan.Proofs.Ledger.Entries
import SmellScan.Proofs.Ledger.Order
import SmellScan.Proofs.Analysis.Batch
import SmellScan.Proofs.Ledger.History
import SmellScan.Proofs.Nesting.Walk
import SmellScan.Proofs.ParseTree.Address
import SmellScan.Proofs.Nesting.DeepLines
import SmellScan.Proofs.Smell.Registry
import SmellScan.Proofs.Analysis.Selection
import SmellScan.Proofs.CodeBlock.Extraction
import SmellScan.Proofs.Analysis.Duplicates
import SmellScan.Proofs.SyntaxNode.BuiltTree
import SmellScan.Proofs.SyntaxNode.FunctionOrder
import SmellScan.Proofs.SyntaxNode.Origin
import SmellScan.Proofs.SyntaxNode.Places
import SmellScan.Proofs.Path.Spelling
import SmellScan.Proofs.FileSystem.WellFormed
import SmellScan.Proofs.Regex.Depth
import SmellScan.Proofs.Regex.Turns
import SmellScan.Proofs.Regex.Words
import SmellScan.Proofs.Regex.Search
import SmellScan.Proofs.PathPattern
import SmellScan.Proofs.Discovery.Excluded
import SmellScan.Proofs.Discovery.Way
import SmellScan.Proofs.Discovery.Files
import SmellScan.Proofs.Analysis.Directory
import SmellScan.Proofs.Analysis.TreeIndependence
import SmellScan.Proofs.Discovery.Exact
import SmellScan.Proofs.Report.CsvReading
import SmellScan.Proofs.Numeric.Digits
import SmellScan.Proofs.Numeric.Shortest
import SmellScan.Proofs.Json.Number
import SmellScan.Proofs.Json.Quoting
import SmellScan.Proofs.Json.RoundTrip
import SmellScan.Proofs.Report.JsonReading
import SmellScan.Proofs.Analysis.Mentions
import SmellScan.Proofs.Analysis.Loading
import SmellScan.Proofs.FileSystem.ReadBack
import SmellScan.Proofs.Json.Lines
import SmellScan.Proofs.RunLog.Events
import SmellScan.Proofs.Analysis.Logged
import SmellScan.Proofs.Cli.SavedReport
import SmellScan.Proofs.Similarity.EditSequence
import SmellScan.Proofs.Similarity.MaximalRuns
import SmellScan.Proofs.Text.Margin
import SmellScan.Proofs.Text.BlockLines
import SmellScan.Proofs.Smell.BodyLines
import SmellScan.Proofs.SyntaxNode.Tour
import SmellScan.Proofs.Nesting.FirstVisit
import SmellScan.Proofs.CodeBlock.Outermost
import SmellScan.Proofs.Text.Scan
import SmellScan.Proofs.Text.Runs
import SmellScan.Proofs.Text.Braced
import SmellScan.Proofs.Smell.CatchClause
import SmellScan.Proofs.Smell.EmptyCatch
import SmellScan.Proofs.Smell.CommentBodies
import SmellScan.Proofs.Smell.ByLine
import SmellScan.Proofs.Smell.ParameterCount
import SmellScan.Proofs.Smell.MissingDefault
import SmellScan.Proofs.Smell.CommentLines
import SmellScan.Proofs.Smell.PropertyCount
import SmellScan.Proofs.Smell.ReportedLines
import SmellScan.Proofs.Similarity.ScoreLaws
import SmellScan.Proofs.ParseTree.FirstError
import SmellScan.Proofs.Report.Grouping
import SmellScan.Proofs.SyntaxNode.SourceText
import SmellScan.Proofs.Report.MarkdownRows
import SmellScan.Proofs.Smell.MinimumLength
import SmellScan.Proofs.SyntaxNode.SourceOrder
