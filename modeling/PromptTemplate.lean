import PromptTemplate.Assoc
import PromptTemplate.Bracket.Basic
import PromptTemplate.Catalog.Basic
import PromptTemplate.Catalog.Name
import PromptTemplate.Catalog.Resolution
import PromptTemplate.Catalog.Resolving
import PromptTemplate.Catalog.Unchecked
import PromptTemplate.Chain.Steps
import PromptTemplate.Codes.Base64
import PromptTemplate.Codes.Basic
import PromptTemplate.Codes.Encoding
import PromptTemplate.Codes.Search
import PromptTemplate.Codes.Utf
import PromptTemplate.CommandLine.Arguments
import PromptTemplate.CommandLine.Run
import PromptTemplate.Cost.Estimate
import PromptTemplate.Cost.InPlace
import PromptTemplate.Cost.Price
import PromptTemplate.Decimal.Binary
import PromptTemplate.Decimal.Integer
import PromptTemplate.Decimal.Layout
import PromptTemplate.Decimal.Magnitude
import PromptTemplate.Decimal.Numeral
import PromptTemplate.Decimal.Shortest
import PromptTemplate.Diagnostic
import PromptTemplate.Document
import PromptTemplate.Event
import PromptTemplate.Expansion.Basic
import PromptTemplate.Expansion.Chain
import PromptTemplate.Expansion.Evaluation
import PromptTemplate.Expansion.Expand
import PromptTemplate.Expansion.Fallible
import PromptTemplate.Expansion.Unit
import PromptTemplate.FileTree
import PromptTemplate.Formula.Complex
import PromptTemplate.Formula.Evaluation
import PromptTemplate.Formula.Expression
import PromptTemplate.Formula.Fault
import PromptTemplate.Formula.Field
import PromptTemplate.Formula.Format
import PromptTemplate.Formula.Method
import PromptTemplate.Formula.Method.Arguments
import PromptTemplate.Formula.Method.Bytes
import PromptTemplate.Formula.Method.Collection
import PromptTemplate.Formula.Method.Number
import PromptTemplate.Formula.Method.Run
import PromptTemplate.Formula.Method.Text
import PromptTemplate.Formula.Operand.Arithmetic
import PromptTemplate.Formula.Operand.Basic
import PromptTemplate.Formula.Operand.Item
import PromptTemplate.Formula.Operand.Printer
import PromptTemplate.Formula.Parser.Basic
import PromptTemplate.Formula.Parser.Expression
import PromptTemplate.Formula.Parser.Parameters
import PromptTemplate.Formula.Parser.Pattern
import PromptTemplate.Formula.Parser.Statement
import PromptTemplate.Formula.Parser.Template
import PromptTemplate.Formula.Reading
import PromptTemplate.Formula.Token
import PromptTemplate.Formula.Token.Basic
import PromptTemplate.Formula.Token.Literal
import PromptTemplate.Formula.Token.Margin
import PromptTemplate.Formula.Token.Numeral
import PromptTemplate.Host
import PromptTemplate.Issue
import PromptTemplate.Kind
import PromptTemplate.Letter.Case
import PromptTemplate.Letter.Class
import PromptTemplate.Letter.Name
import PromptTemplate.Letter.Normal
import PromptTemplate.Letter.NormalTable
import PromptTemplate.Loading
import PromptTemplate.Main
import PromptTemplate.Proofs.Assoc.Keys
import PromptTemplate.Proofs.Bracket.Collision
import PromptTemplate.Proofs.Bracket.Grammar
import PromptTemplate.Proofs.Bracket.RoundTrip
import PromptTemplate.Proofs.Bracket.Standalone
import PromptTemplate.Proofs.Bracket.Vacancy
import PromptTemplate.Proofs.Catalog.Contents
import PromptTemplate.Proofs.Catalog.Fallback
import PromptTemplate.Proofs.Catalog.Lookup
import PromptTemplate.Proofs.Catalog.Referable
import PromptTemplate.Proofs.Catalog.Resolution
import PromptTemplate.Proofs.Catalog.Tidiness
import PromptTemplate.Proofs.Chain.Grammar
import PromptTemplate.Proofs.CommandLine.Flags
import PromptTemplate.Proofs.CommandLine.Outcome
import PromptTemplate.Proofs.CommandLine.Output
import PromptTemplate.Proofs.CommandLine.Reporting
import PromptTemplate.Proofs.Cost.Billing
import PromptTemplate.Proofs.Cost.Pricing
import PromptTemplate.Proofs.Cost.Refusal
import PromptTemplate.Proofs.Decimal.Range
import PromptTemplate.Proofs.Decimal.Sign
import PromptTemplate.Proofs.Expansion.Cases
import PromptTemplate.Proofs.Expansion.Completion
import PromptTemplate.Proofs.Expansion.Consistency
import PromptTemplate.Proofs.Expansion.Distinct
import PromptTemplate.Proofs.Expansion.FailClosed
import PromptTemplate.Proofs.Expansion.FirstChoice
import PromptTemplate.Proofs.Expansion.Limits
import PromptTemplate.Proofs.Expansion.LiteralBrackets
import PromptTemplate.Proofs.Expansion.Lookup
import PromptTemplate.Proofs.Expansion.Mappings
import PromptTemplate.Proofs.Expansion.Missing
import PromptTemplate.Proofs.Expansion.Numerals
import PromptTemplate.Proofs.Expansion.Parts
import PromptTemplate.Proofs.Expansion.Relevance
import PromptTemplate.Proofs.Expansion.Sources
import PromptTemplate.Proofs.Expansion.Spacing
import PromptTemplate.Proofs.Expansion.Spending
import PromptTemplate.Proofs.Expansion.StepWise
import PromptTemplate.Proofs.Expansion.Verdict
import PromptTemplate.Proofs.Expansion.Visible
import PromptTemplate.Proofs.Expansion.WhiteSpace
import PromptTemplate.Proofs.Expansion.Wildcards
import PromptTemplate.Proofs.Kind.Reading
import PromptTemplate.Proofs.Loading.Directory
import PromptTemplate.Proofs.Loading.Documents
import PromptTemplate.Proofs.Loading.Faults
import PromptTemplate.Proofs.Loading.Hosts
import PromptTemplate.Proofs.Loading.Origin
import PromptTemplate.Proofs.Loading.Reading
import PromptTemplate.Proofs.Loading.Wrapping
import PromptTemplate.Proofs.Reference.Names
import PromptTemplate.Proofs.Reference.Pieces
import PromptTemplate.Proofs.Reference.Recovery
import PromptTemplate.Proofs.Reference.Replacement
import PromptTemplate.Proofs.Reference.Runs
import PromptTemplate.Proofs.Reference.Staging
import PromptTemplate.Proofs.Reference.Substitution
import PromptTemplate.Proofs.Selection.Enumeration
import PromptTemplate.Proofs.Selection.MixedRadix
import PromptTemplate.Proofs.Selection.Warnings
import PromptTemplate.Proofs.Settings.Checked
import PromptTemplate.Proofs.Settings.Given
import PromptTemplate.Proofs.Settings.InPlace
import PromptTemplate.Proofs.Settings.Overlay
import PromptTemplate.Proofs.Settings.Record
import PromptTemplate.Proofs.Settings.Spelling
import PromptTemplate.Proofs.Settings.Validity
import PromptTemplate.Proofs.Store.Effects
import PromptTemplate.Proofs.Store.Export
import PromptTemplate.Proofs.Store.Failures
import PromptTemplate.Proofs.Store.InPlace
import PromptTemplate.Proofs.Store.Lookup
import PromptTemplate.Proofs.Store.Run
import PromptTemplate.Proofs.Store.Separation
import PromptTemplate.Proofs.Store.Shelf
import PromptTemplate.Proofs.Store.Soundness
import PromptTemplate.Proofs.Text.Lines
import PromptTemplate.Proofs.Text.Numerals
import PromptTemplate.Proofs.Text.Runs
import PromptTemplate.Proofs.Text.Splitting
import PromptTemplate.Proofs.Text.Trimming
import PromptTemplate.Proofs.Text.Words
import PromptTemplate.Proofs.Value.Writing
import PromptTemplate.Proofs.Yaml.LineEnds
import PromptTemplate.Proofs.Yaml.Unfolding
import PromptTemplate.Reference
import PromptTemplate.Selection
import PromptTemplate.Settings.Basic
import PromptTemplate.Settings.InPlace
import PromptTemplate.Settings.Reading
import PromptTemplate.Settings.Record
import PromptTemplate.Store
import PromptTemplate.Store.InPlace
import PromptTemplate.Store.Operation
import PromptTemplate.Store.Shelf
import PromptTemplate.Text.Basic
import PromptTemplate.Text.Identifier
import PromptTemplate.Text.Printable
import PromptTemplate.Value.Basic
import PromptTemplate.Value.Printer
import PromptTemplate.Value.SetOrder
import PromptTemplate.Value.Timestamp
import PromptTemplate.Value.Writing
import PromptTemplate.Yaml.Class
import PromptTemplate.Yaml.Content
import PromptTemplate.Yaml.Cursor
import PromptTemplate.Yaml.Document
import PromptTemplate.Yaml.Fault
import PromptTemplate.Yaml.Look
import PromptTemplate.Yaml.Merge
import PromptTemplate.Yaml.Node.Basic
import PromptTemplate.Yaml.Node.Composition
import PromptTemplate.Yaml.Pen
import PromptTemplate.Yaml.Printer
import PromptTemplate.Yaml.Scalar
import PromptTemplate.Yaml.Tag
import PromptTemplate.Yaml.Token.Basic
import PromptTemplate.Yaml.Token.Block
import PromptTemplate.Yaml.Token.Lexer
import PromptTemplate.Yaml.Token.Plain
import PromptTemplate.Yaml.Token.Property
import PromptTemplate.Yaml.Token.Quoted
import PromptTemplate.Yaml.Token.Stream
