import LayerLint.Analysis
import LayerLint.CSharp.Grammar
import LayerLint.CSharp.Lexeme
import LayerLint.CallPattern
import LayerLint.Cancellation
import LayerLint.CommandLine.Command
import LayerLint.CommandLine.Request
import LayerLint.CommandLine.Run
import LayerLint.CommandLine.Usage
import LayerLint.Decimal.Shortest
import LayerLint.Dialect
import LayerLint.Discovery
import LayerLint.Engine
import LayerLint.Extract
import LayerLint.FileTree.Basic
import LayerLint.FileTree.Name
import LayerLint.Glob
import LayerLint.Java.Grammar
import LayerLint.Java.Lexeme
import LayerLint.Json.Basic
import LayerLint.Json.Cursor
import LayerLint.Json.Fault
import LayerLint.Layer
import LayerLint.Log
import LayerLint.Log.Filter
import LayerLint.Main
import LayerLint.Model
import LayerLint.Path
import LayerLint.Policy
import LayerLint.Proofs.CallPattern
import LayerLint.Proofs.Cancellation
import LayerLint.Proofs.CommandLine.Init
import LayerLint.Proofs.CommandLine.Outcome
import LayerLint.Proofs.Discovery
import LayerLint.Proofs.Discovery.Exact
import LayerLint.Proofs.Extract.Attribution
import LayerLint.Proofs.Extract.BodyLines
import LayerLint.Proofs.Extract.Classes
import LayerLint.Proofs.Extract.Comments
import LayerLint.Proofs.Extract.Declarations
import LayerLint.Proofs.Extract.Lines
import LayerLint.Proofs.Extract.Nesting
import LayerLint.Proofs.Extract.Outcome
import LayerLint.Proofs.Extract.Slots
import LayerLint.Proofs.FileTree.Child
import LayerLint.Proofs.FileTree.Growth
import LayerLint.Proofs.FileTree.Listing
import LayerLint.Proofs.FileTree.Locate
import LayerLint.Proofs.FileTree.Name
import LayerLint.Proofs.Json.Decoding
import LayerLint.Proofs.Json.Grammar
import LayerLint.Proofs.Json.Reading
import LayerLint.Proofs.Json.Remainder
import LayerLint.Proofs.Json.Spelling
import LayerLint.Proofs.Namespace
import LayerLint.Proofs.Policy
import LayerLint.Proofs.Report.Canonical
import LayerLint.Proofs.Report.Document
import LayerLint.Proofs.Report.Figures
import LayerLint.Proofs.Report.Lines
import LayerLint.Proofs.Rule.Exact
import LayerLint.Proofs.Scan.BreakOff
import LayerLint.Proofs.Scan.Isolation
import LayerLint.Proofs.Scan.Layers
import LayerLint.Proofs.Scan.Loosening
import LayerLint.Proofs.Scan.Origin
import LayerLint.Proofs.Scan.Quoting
import LayerLint.Proofs.Scan.Reordering
import LayerLint.Proofs.Scan.RuleSubset
import LayerLint.Proofs.Scan.Schedule
import LayerLint.Proofs.Settings.RoundTrip
import LayerLint.Proofs.Settings.Search
import LayerLint.Proofs.Syntax.Chain
import LayerLint.Proofs.Syntax.Comments
import LayerLint.Proofs.Syntax.Flaws
import LayerLint.Proofs.Syntax.Leaves
import LayerLint.Proofs.Syntax.Ownership
import LayerLint.Proofs.Syntax.Place
import LayerLint.Proofs.Syntax.Resolution
import LayerLint.Proofs.Syntax.Step
import LayerLint.Proofs.Text.Decode
import LayerLint.Proofs.Text.LetterCase
import LayerLint.Proofs.Text.Pieces
import LayerLint.Proofs.Text.SimpleName
import LayerLint.Proofs.Text.TestWord
import LayerLint.Proofs.Text.Unquote
import LayerLint.Proofs.Text.Wildcard
import LayerLint.Proofs.Text.Words
import LayerLint.Regex.Basic
import LayerLint.Regex.Compile
import LayerLint.Regex.Fault
import LayerLint.Regex.Matcher
import LayerLint.Regex.Pattern
import LayerLint.Regex.Property
import LayerLint.Report
import LayerLint.Report.Printer
import LayerLint.Rule.Evaluate
import LayerLint.Rule.Id
import LayerLint.Rule.Sites
import LayerLint.Scan.Basic
import LayerLint.Settings.Basic
import LayerLint.Settings.Reader
import LayerLint.Settings.Search
import LayerLint.Syntax.Form
import LayerLint.Syntax.Kind
import LayerLint.Syntax.Language
import LayerLint.Syntax.Parser
import LayerLint.Syntax.Receiver
import LayerLint.Syntax.Repair
import LayerLint.Syntax.Tree
import LayerLint.Syntax.Walk
import LayerLint.Text.BinaryProperty
import LayerLint.Text.Blank
import LayerLint.Text.CaseVariant
import LayerLint.Text.Category
import LayerLint.Text.CharClass
import LayerLint.Text.Letter
import LayerLint.Text.LetterCase
import LayerLint.Text.Name
import LayerLint.Text.Quoted
import LayerLint.Text.Script
import LayerLint.Text.Similarity
import LayerLint.Text.Utf8
import LayerLint.Text.Wildcard
import LayerLint.Text.WordChar
import LayerLint.Text.Words
import LayerLint.Violation
