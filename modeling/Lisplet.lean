import Lisplet.Arity
import Lisplet.CommandLine
import Lisplet.Error
import Lisplet.Evaluation.Closure
import Lisplet.Evaluation.Evaluator
import Lisplet.Evaluation.Template
import Lisplet.Files
import Lisplet.Library
import Lisplet.Main
import Lisplet.Number.Binary64
import Lisplet.Number.Decimal
import Lisplet.Number.Text
import Lisplet.Operation.Arithmetic
import Lisplet.Operation.Basic
import Lisplet.Operation.Conversion
import Lisplet.Reader.Datum
import Lisplet.Reader.Stream
import Lisplet.Reader.Token
import Lisplet.Regex.BinaryProperty
import Lisplet.Regex.Encoding
import Lisplet.Regex.Machine
import Lisplet.Regex.Matching
import Lisplet.Regex.Parser
import Lisplet.Regex.Parser.CharClass
import Lisplet.Regex.Parser.Escape
import Lisplet.Regex.Parser.Input
import Lisplet.Regex.Pattern
import Lisplet.Regex.Property
import Lisplet.Regex.Repertoire
import Lisplet.Regex.Segmentation
import Lisplet.Session
import Lisplet.Source
import Lisplet.State
import Lisplet.Store
import Lisplet.Symbol
import Lisplet.Text.Age
import Lisplet.Text.CaseFolding
import Lisplet.Text.Category
import Lisplet.Text.CharSet
import Lisplet.Text.CodeRuns
import Lisplet.Text.Diagnostic
import Lisplet.Text.LetterCase
import Lisplet.Text.Lines
import Lisplet.Text.Property
import Lisplet.Text.Script
import Lisplet.Text.StringLiteral
import Lisplet.TopLevel
import Lisplet.Value
import Lisplet.Value.List
import Lisplet.Value.Printer
import Lisplet.Proofs.Reader.Name
import Lisplet.Proofs.Reader.Beginning
import Lisplet.Proofs.Reader.Spelling
import Lisplet.Proofs.Reader.PrintedText
import Lisplet.Proofs.Evaluation.Law
import Lisplet.Proofs.Evaluation.Stack
import Lisplet.Proofs.Evaluation.Fuel
import Lisplet.Proofs.Evaluation.Growth
import Lisplet.Proofs.Evaluation.History
import Lisplet.Proofs.Evaluation.Provenance
import Lisplet.Proofs.Evaluation.Reachable
import Lisplet.Proofs.Evaluation.Bindings
import Lisplet.Proofs.Evaluation.Desugaring
import Lisplet.Proofs.Reader.Frame
import Lisplet.Proofs.Reader.Incremental
import Lisplet.Proofs.Reader.Soundness
import Lisplet.Proofs.Reader.ListSyntax
import Lisplet.Proofs.TopLevel.Isolation
import Lisplet.Proofs.Evaluation.Nesting
import Lisplet.Proofs.Text.Lines
import Lisplet.Proofs.Source.Stream
import Lisplet.Proofs.Session.Loading
import Lisplet.Proofs.Evaluation.Forms
import Lisplet.Proofs.Evaluation.Expansion
import Lisplet.Proofs.Evaluation.Scopes
import Lisplet.Proofs.Source.Schedule
import Lisplet.Proofs.Reader.Progress
import Lisplet.Proofs.Reader.Joining
import Lisplet.Proofs.Reader.Consumption
import Lisplet.Proofs.TopLevel.Loop
import Lisplet.Proofs.TopLevel.Agreement
import Lisplet.Proofs.Library.Lists
import Lisplet.Proofs.Library.LocalBinding
import Lisplet.Proofs.Library.ShortCircuit
import Lisplet.Proofs.Library.ClosureText
import Lisplet.Number.Word
import Lisplet.Proofs.Operation.Integers
import Lisplet.Proofs.Number.Grammar
import Lisplet.Proofs.Reader.NumberToken
import Lisplet.Proofs.Evaluation.Outcome
import Lisplet.Proofs.Library.Variadic
import Lisplet.Proofs.Library.Disjunction
import Lisplet.Proofs.Reader.RegexLiteral
import Lisplet.Proofs.Reader.Rereading
import Lisplet.Proofs.Evaluation.Visibility
import Lisplet.Proofs.Evaluation.LiteralTemplate
import Lisplet.Proofs.Source.Watch
import Lisplet.Proofs.TopLevel.Prompting
import Lisplet.Proofs.Reader.Tape.Calls
import Lisplet.Proofs.CommandLine
import Lisplet.Proofs.Reader.Probing
import Lisplet.Proofs.TopLevel.Probing
import Lisplet.Proofs.Evaluation.Ledger
import Lisplet.Proofs.Evaluation.Recording
import Lisplet.Proofs.Evaluation.Naming
import Lisplet.Symbol.Interner
import Lisplet.Value.Object
import Lisplet.Reader.Interned
import Lisplet.Proofs.Symbol.Interner
import Lisplet.Proofs.Symbol.Object
import Lisplet.Proofs.Reader.Interned
import Lisplet.Proofs.Symbol.Canonical
import Lisplet.Proofs.Value.Append
import Lisplet.Proofs.Value.Equality
import Lisplet.Proofs.Value.Comparison
