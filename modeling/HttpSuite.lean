import HttpSuite.Compile
import HttpSuite.Compile.File
import HttpSuite.Console
import HttpSuite.Console.Arguments
import HttpSuite.Console.Command
import HttpSuite.Console.Emoji
import HttpSuite.Console.Emoji.Names
import HttpSuite.Console.Help
import HttpSuite.Console.Markup
import HttpSuite.Console.Markup.Literal
import HttpSuite.Console.Markup.Style
import HttpSuite.Console.Report
import HttpSuite.Console.Screen
import HttpSuite.Console.Similar
import HttpSuite.Console.Table
import HttpSuite.Console.Wrap
import HttpSuite.Data
import HttpSuite.Data.Checked
import HttpSuite.Data.Json
import HttpSuite.Diagnostic
import HttpSuite.Emit
import HttpSuite.Emit.Failure
import HttpSuite.Emit.JavaClass
import HttpSuite.Emit.Lines
import HttpSuite.Emit.PythonModule
import HttpSuite.Emit.UnitName
import HttpSuite.Journal
import HttpSuite.Journal.Event
import HttpSuite.Journal.Level
import HttpSuite.Number.Binary64
import HttpSuite.Number.Numeral
import HttpSuite.Number.Shortest
import HttpSuite.Program
import HttpSuite.Program.Data
import HttpSuite.Program.Grammar
import HttpSuite.Program.Statement
import HttpSuite.Program.WellFormed
import HttpSuite.Proofs.Accepted
import HttpSuite.Proofs.Acts
import HttpSuite.Proofs.AllOrNothing
import HttpSuite.Proofs.Alternatives
import HttpSuite.Proofs.Appending
import HttpSuite.Proofs.ClassFile
import HttpSuite.Proofs.Composition
import HttpSuite.Proofs.Confinement
import HttpSuite.Proofs.Decimal
import HttpSuite.Proofs.Denotation
import HttpSuite.Proofs.Derivation
import HttpSuite.Proofs.Document
import HttpSuite.Proofs.FileAgreement
import HttpSuite.Proofs.FirstFailure
import HttpSuite.Proofs.FirstLines
import HttpSuite.Proofs.FirstViolation
import HttpSuite.Proofs.Layout
import HttpSuite.Proofs.Lexing
import HttpSuite.Proofs.LineByLine
import HttpSuite.Proofs.LineEnds
import HttpSuite.Proofs.Literal
import HttpSuite.Proofs.NameClashes
import HttpSuite.Proofs.NameSearch
import HttpSuite.Proofs.NormalForm
import HttpSuite.Proofs.OnDemand
import HttpSuite.Proofs.OneShot
import HttpSuite.Proofs.Parsing
import HttpSuite.Proofs.Places
import HttpSuite.Proofs.Printing
import HttpSuite.Proofs.RawTexts
import HttpSuite.Proofs.ReadBack
import HttpSuite.Proofs.Reading
import HttpSuite.Proofs.Records
import HttpSuite.Proofs.Relocation
import HttpSuite.Proofs.Replacement
import HttpSuite.Proofs.Scanning
import HttpSuite.Proofs.SourceName
import HttpSuite.Proofs.Statements
import HttpSuite.Proofs.StatusChecks
import HttpSuite.Proofs.StuckPlaces
import HttpSuite.Proofs.Terminals
import HttpSuite.Proofs.TreeRoundTrip
import HttpSuite.Proofs.UnitNames
import HttpSuite.Proofs.Utf8
import HttpSuite.Settings
import HttpSuite.Settings.File
import HttpSuite.Target
import HttpSuite.Text.Base64
import HttpSuite.Text.Blank
import HttpSuite.Text.Blocks
import HttpSuite.Text.CaseRun
import HttpSuite.Text.CodePoints
import HttpSuite.Text.DecimalDigit
import HttpSuite.Text.FileName
import HttpSuite.Text.Hex
import HttpSuite.Text.Identifier
import HttpSuite.Text.LineEnd
import HttpSuite.Text.Literal
import HttpSuite.Text.LowerCase
import HttpSuite.Text.Printable
import HttpSuite.Text.RawText
import HttpSuite.Text.Shown
import HttpSuite.Text.UpperCase
import HttpSuite.Text.Utf8
import HttpSuite.Text.Width
import HttpSuite.Text.WordCharacter
import HttpSuite.Token
import HttpSuite.Token.Stream
import HttpSuite.Workspace
import HttpSuite.Workspace.Draft
import HttpSuite.Workspace.FileError
import HttpSuite.Workspace.Path
import HttpSuite.Yaml
import HttpSuite.Yaml.Atom
import HttpSuite.Yaml.Cursor
import HttpSuite.Yaml.Fault
import HttpSuite.Yaml.Item
import HttpSuite.Yaml.Moment
import HttpSuite.Yaml.Node
import HttpSuite.Yaml.Plain
import HttpSuite.Yaml.Scalar
import HttpSuite.Yaml.Scan
import HttpSuite.Yaml.Tag
import HttpSuite.Yaml.Value
