import Conformance.CommandLine.Basic
import Conformance.CommandLine.Layering
import Conformance.CommandLine.Program
import Conformance.CommandLine.Transcript
import Conformance.CommandLine.Usage
import Conformance.CommandLine.Words
import Conformance.Discovery.FileSet
import Conformance.Discovery.Glob
import Conformance.Discovery.Scan
import Conformance.Encoding.Basic
import Conformance.Encoding.CodePage
import Conformance.Encoding.EastAsian
import Conformance.Encoding.Index.Big5
import Conformance.Encoding.Index.Gb18030
import Conformance.Encoding.Index.Jis0208
import Conformance.Encoding.Index.Jis0212
import Conformance.Encoding.Index.Korean
import Conformance.Encoding.Label
import Conformance.Encoding.Stepwise
import Conformance.Encoding.Utf16
import Conformance.Files.Path
import Conformance.Files.Snapshot
import Conformance.Files.Tree
import Conformance.Files.Walk
import Conformance.Grammar.Basic
import Conformance.Grammar.Snafu.Lexical
import Conformance.Grammar.Snafu.Publication
import Conformance.Grammar.Snafu.Rules
import Conformance.Grammar.Word
import Conformance.Grammar.Word.Constructors
import Conformance.Log.Code
import Conformance.Log.Event
import Conformance.Log.Journal
import Conformance.Log.Preferences
import Conformance.Log.Service
import Conformance.Main
import Conformance.Proofs.CommandLine.Layering
import Conformance.Proofs.CommandLine.Skip
import Conformance.Proofs.Files.Tree
import Conformance.Proofs.Grammar.Built
import Conformance.Proofs.Grammar.FirstError
import Conformance.Proofs.Grammar.Lexing
import Conformance.Proofs.Log.Outcome
import Conformance.Proofs.Recognition.Abreast
import Conformance.Proofs.Recognition.Built
import Conformance.Proofs.Recognition.Checked
import Conformance.Proofs.Recognition.FirstError
import Conformance.Proofs.Recognition.Naming
import Conformance.Proofs.Recognition.Repair
import Conformance.Proofs.Recognition.Standing
import Conformance.Proofs.Run.Answer
import Conformance.Proofs.Run.Composition
import Conformance.Proofs.Run.Source
import Conformance.Proofs.Settings.Stated
import Conformance.Proofs.Snafu.Checked
import Conformance.Proofs.Snafu.Ending
import Conformance.Proofs.Snafu.Expectation
import Conformance.Proofs.Snafu.Fresh
import Conformance.Proofs.Snafu.Lexemes
import Conformance.Proofs.Snafu.LongestMatch
import Conformance.Proofs.Snafu.Outcome
import Conformance.Proofs.Snafu.Phase
import Conformance.Proofs.Snafu.Recovery
import Conformance.Proofs.Snafu.Room
import Conformance.Proofs.Snafu.Strings
import Conformance.Proofs.Snafu.Syntax
import Conformance.Proofs.Snafu.Verdict
import Conformance.Proofs.Token.Cursor
import Conformance.Proofs.Token.Lexing
import Conformance.Proofs.Token.Stock
import Conformance.Proofs.Toml.Keys
import Conformance.Recognition.Error
import Conformance.Recognition.Invocation
import Conformance.Recognition.Parser
import Conformance.Recognition.Recognizer
import Conformance.Recognition.Strategy
import Conformance.Report.Format
import Conformance.Report.Result
import Conformance.Run.Assembly
import Conformance.Run.Basic
import Conformance.Run.SourceFile
import Conformance.Settings.Basic
import Conformance.Settings.Document
import Conformance.Settings.Environment
import Conformance.Settings.File
import Conformance.Symbol.Descriptor
import Conformance.Symbol.Identity
import Conformance.Symbol.Registry
import Conformance.Symbol.Resolution
import Conformance.Text.Blank
import Conformance.Text.CharStream
import Conformance.Text.Invisible
import Conformance.Text.JsonValue
import Conformance.Text.Keyed
import Conformance.Text.Position
import Conformance.Text.Quoted
import Conformance.Time.Timestamp
import Conformance.Token.Basic
import Conformance.Token.Buffer
import Conformance.Token.Lexing
import Conformance.Token.Source
import Conformance.Toml.Document
import Conformance.Toml.Scalar
import Conformance.Toml.Text
import Conformance.Toml.Value
import Conformance.Proofs.Log.Course
import Conformance.Proofs.Discovery.Entered
import Conformance.Proofs.Run.Entered
import Conformance.Proofs.Run.Record
import Conformance.Proofs.Run.Failure
import Conformance.Proofs.CommandLine.Output
import Conformance.Proofs.Run.Rejection
import Conformance.Proofs.CommandLine.Status
import Conformance.Proofs.Text.JsonGrammar
import Conformance.Proofs.CommandLine.JsonOutput
import Conformance.Proofs.CommandLine.Patterns
import Conformance.Proofs.Symbol.Registrations
import Conformance.Proofs.Recognition.Likeness
import Conformance.Proofs.Snafu.Likeness
import Conformance.Proofs.Snafu.Printing
import Conformance.Proofs.Snafu.KindsOnly
import Conformance.Proofs.Token.Demand
import Conformance.Proofs.Recognition.Admission
import Conformance.Proofs.Snafu.Nesting
import Conformance.Proofs.Files.Order
import Conformance.Proofs.Files.Directories
import Conformance.Proofs.Files.Walk
import Conformance.Proofs.Discovery.Selection
import Conformance.Proofs.Files.Rearranged
import Conformance.Proofs.Text.ByteOrder
import Conformance.Proofs.Symbol.Resolution
import Conformance.Proofs.Symbol.Publication
import Conformance.Proofs.Recognition.Contract
import Conformance.Proofs.Word.Verdict
import Conformance.Proofs.Symbol.QualifiedName
import Conformance.Proofs.Text.Padding
import Conformance.Proofs.Text.Utf8
import Conformance.Proofs.Run.Reading
import Conformance.Proofs.Recognition.Messages
import Conformance.Proofs.Report.Faithful
import Conformance.Proofs.Run.Padding
import Conformance.Proofs.Snafu.Chain
import Conformance.Proofs.Snafu.Precedence
import Conformance.Proofs.Text.CharStream
