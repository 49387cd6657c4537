import ProtocolTypes.Accident
import ProtocolTypes.CommandLine.Generate
import ProtocolTypes.CommandLine.Invocation
import ProtocolTypes.CommandLine.Options
import ProtocolTypes.CommandLine.Run
import ProtocolTypes.CommandLine.Session
import ProtocolTypes.CommandLine.Show
import ProtocolTypes.CommandLine.Survey
import ProtocolTypes.Console.Basic
import ProtocolTypes.Console.Cell
import ProtocolTypes.Console.Cluster
import ProtocolTypes.Console.Color
import ProtocolTypes.Console.Emoji
import ProtocolTypes.Console.EmojiNames
import ProtocolTypes.Console.Literal.Basic
import ProtocolTypes.Console.Literal.Token
import ProtocolTypes.Console.Markup
import ProtocolTypes.Console.Style
import ProtocolTypes.Console.Wrap
import ProtocolTypes.Document.Display
import ProtocolTypes.Document.Key
import ProtocolTypes.Document.Load
import ProtocolTypes.Document.LoadFault
import ProtocolTypes.Document.Origin
import ProtocolTypes.Document.Parse
import ProtocolTypes.Document.Value
import ProtocolTypes.Encoding.Basic
import ProtocolTypes.Encoding.Chart
import ProtocolTypes.Encoding.Chinese
import ProtocolTypes.Encoding.ChineseChart
import ProtocolTypes.Encoding.CodePage
import ProtocolTypes.Encoding.Designation
import ProtocolTypes.Encoding.Escaped
import ProtocolTypes.Encoding.ExtendedJapaneseChart
import ProtocolTypes.Encoding.ForeignPages
import ProtocolTypes.Encoding.HongKongChart
import ProtocolTypes.Encoding.Japanese
import ProtocolTypes.Encoding.JapaneseChart
import ProtocolTypes.Encoding.Korean
import ProtocolTypes.Encoding.KoreanChart
import ProtocolTypes.Encoding.NamedPages
import ProtocolTypes.Encoding.NumberedPages
import ProtocolTypes.Encoding.Punycode
import ProtocolTypes.Encoding.Shifted
import ProtocolTypes.Encoding.Step
import ProtocolTypes.Encoding.TaiwaneseChart
import ProtocolTypes.Encoding.Unicode
import ProtocolTypes.Environment
import ProtocolTypes.Failure
import ProtocolTypes.Json.Fault
import ProtocolTypes.Json.Read
import ProtocolTypes.Linter.Report
import ProtocolTypes.Linter.Run
import ProtocolTypes.Log
import ProtocolTypes.Main
import ProtocolTypes.Module.Declaration
import ProtocolTypes.Module.EnumBlock
import ProtocolTypes.Module.Interface
import ProtocolTypes.Module.MessageTypes
import ProtocolTypes.Module.Overloads
import ProtocolTypes.Module.Source
import ProtocolTypes.Number.Binary64
import ProtocolTypes.Number.Digits
import ProtocolTypes.Number.FloatText
import ProtocolTypes.Number.LooseText
import ProtocolTypes.Number.Shortest
import ProtocolTypes.Proofs.CommandLine.Colors
import ProtocolTypes.Proofs.CommandLine.Effects
import ProtocolTypes.Proofs.CommandLine.Making
import ProtocolTypes.Proofs.CommandLine.Outcome
import ProtocolTypes.Proofs.CommandLine.Showing
import ProtocolTypes.Proofs.Document.Loading
import ProtocolTypes.Proofs.Document.Routes
import ProtocolTypes.Proofs.Json.LongNumbers
import ProtocolTypes.Proofs.Linter.Ending
import ProtocolTypes.Proofs.Module.Documentation
import ProtocolTypes.Proofs.Module.Encoding
import ProtocolTypes.Proofs.Module.EnumMembers
import ProtocolTypes.Proofs.Module.Modes
import ProtocolTypes.Proofs.Module.NoData
import ProtocolTypes.Proofs.Module.Optionality
import ProtocolTypes.Proofs.Module.Records
import ProtocolTypes.Proofs.Module.References
import ProtocolTypes.Proofs.Module.Sections
import ProtocolTypes.Proofs.Protocol.Extras
import ProtocolTypes.Proofs.Protocol.Revision
import ProtocolTypes.Proofs.Settings.Precedence
import ProtocolTypes.Proofs.Storage.Atomicity
import ProtocolTypes.Proofs.Storage.Growth
import ProtocolTypes.Proofs.Storage.Writing
import ProtocolTypes.Proofs.Text.Comments
import ProtocolTypes.Proofs.Text.Indentation
import ProtocolTypes.Proofs.TypeTree.Blame
import ProtocolTypes.Proofs.TypeTree.Consistency
import ProtocolTypes.Proofs.TypeTree.Coverage
import ProtocolTypes.Proofs.TypeTree.DeclaredText
import ProtocolTypes.Proofs.TypeTree.Description
import ProtocolTypes.Proofs.TypeTree.FieldList
import ProtocolTypes.Proofs.TypeTree.Growing
import ProtocolTypes.Proofs.TypeTree.Grown
import ProtocolTypes.Proofs.TypeTree.InsertionTrace
import ProtocolTypes.Proofs.TypeTree.Invariant
import ProtocolTypes.Proofs.TypeTree.LineBreaks
import ProtocolTypes.Proofs.TypeTree.Locality
import ProtocolTypes.Proofs.TypeTree.Notes
import ProtocolTypes.Proofs.TypeTree.Position
import ProtocolTypes.Proofs.TypeTree.PropertyOrder
import ProtocolTypes.Proofs.TypeTree.Reading
import ProtocolTypes.Proofs.TypeTree.Refusal
import ProtocolTypes.Proofs.TypeTree.Reordering
import ProtocolTypes.Proofs.TypeTree.Sealed
import ProtocolTypes.Proofs.TypeTree.SiblingOrder
import ProtocolTypes.Proofs.TypeTree.Trace
import ProtocolTypes.Proofs.TypeTree.Undocumented
import ProtocolTypes.Proofs.TypeTree.UniqueText
import ProtocolTypes.Proofs.Validation.Alike
import ProtocolTypes.Proofs.Validation.Edit
import ProtocolTypes.Proofs.Web.PageText
import ProtocolTypes.Proofs.Yaml.Accidents
import ProtocolTypes.Proofs.Yaml.Scanning
import ProtocolTypes.Protocol.Basic
import ProtocolTypes.Protocol.Check
import ProtocolTypes.Protocol.Descriptor
import ProtocolTypes.Protocol.Entries
import ProtocolTypes.Protocol.Extract
import ProtocolTypes.Settings.Basic
import ProtocolTypes.Settings.Check
import ProtocolTypes.Settings.Project
import ProtocolTypes.Settings.Resolve
import ProtocolTypes.Storage.Basic
import ProtocolTypes.Storage.DataDirectory
import ProtocolTypes.Storage.Directory
import ProtocolTypes.Storage.Path
import ProtocolTypes.Storage.Write
import ProtocolTypes.Text.Base64
import ProtocolTypes.Text.Blank
import ProtocolTypes.Text.DecimalDigit
import ProtocolTypes.Text.Lines
import ProtocolTypes.Text.LowerCase
import ProtocolTypes.Text.Pattern
import ProtocolTypes.Text.PointSet
import ProtocolTypes.Text.Printable
import ProtocolTypes.Text.Surrogate
import ProtocolTypes.Text.WordCharacter
import ProtocolTypes.TypeTree.Basic
import ProtocolTypes.TypeTree.Declared
import ProtocolTypes.TypeTree.Fault
import ProtocolTypes.TypeTree.Insert
import ProtocolTypes.TypeTree.Leaf
import ProtocolTypes.TypeTree.Render
import ProtocolTypes.Validation.Checked
import ProtocolTypes.Validation.Issue
import ProtocolTypes.Validation.Record
import ProtocolTypes.Validation.Rule
import ProtocolTypes.Web.ContentType
import ProtocolTypes.Web.Exchange
import ProtocolTypes.Web.ParameterSection
import ProtocolTypes.Yaml.BlockScalar
import ProtocolTypes.Yaml.Building
import ProtocolTypes.Yaml.Cursor
import ProtocolTypes.Yaml.Fault
import ProtocolTypes.Yaml.Merge
import ProtocolTypes.Yaml.Node
import ProtocolTypes.Yaml.Object
import ProtocolTypes.Yaml.PlainScalar
import ProtocolTypes.Yaml.QuotedScalar
import ProtocolTypes.Yaml.Read
import ProtocolTypes.Yaml.Reading
import ProtocolTypes.Yaml.Scalar
import ProtocolTypes.Yaml.Tag
import ProtocolTypes.Yaml.Token
import ProtocolTypes.Yaml.Tokens
import ProtocolTypes.Yaml.Unrolling
import ProtocolTypes.Yaml.Word
