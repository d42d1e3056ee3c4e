import Wordsmith.CommandLine.Option
import Wordsmith.CommandLine.Request
import Wordsmith.CommandLine.Run
import Wordsmith.Conversion
import Wordsmith.Document.Element
import Wordsmith.Document.Links
import Wordsmith.Document.Run
import Wordsmith.File.Fault
import Wordsmith.File.Folder
import Wordsmith.File.Path
import Wordsmith.Length
import Wordsmith.Machine
import Wordsmith.Main
import Wordsmith.Markdown.Block
import Wordsmith.Markdown.Document
import Wordsmith.Markdown.Emphasis
import Wordsmith.Markdown.EntityTable
import Wordsmith.Markdown.Html
import Wordsmith.Markdown.Inline
import Wordsmith.Markdown.Line
import Wordsmith.Markdown.Outline
import Wordsmith.Markdown.Reference
import Wordsmith.Markdown.Span
import Wordsmith.Markdown.Table
import Wordsmith.Markdown.Target
import Wordsmith.Markup.Basic
import Wordsmith.Markup.Escape
import Wordsmith.Number.Binary64
import Wordsmith.Number.Shortest
import Wordsmith.Package.Archive
import Wordsmith.Package.Body
import Wordsmith.Package.Checksum
import Wordsmith.Package.Part
import Wordsmith.Package.Property
import Wordsmith.Package.Reference
import Wordsmith.Package.Runs
import Wordsmith.Package.Styles
import Wordsmith.Package.Table
import Wordsmith.Package.Unzip
import Wordsmith.Package.Vocabulary
import Wordsmith.Package.Zip
import Wordsmith.Proofs.CommandLine.Request
import Wordsmith.Proofs.CommandLine.Run
import Wordsmith.Proofs.File.Ending
import Wordsmith.Proofs.File.Folder
import Wordsmith.Proofs.File.Way
import Wordsmith.Proofs.Length
import Wordsmith.Proofs.Markup.AllEncodable
import Wordsmith.Proofs.Markup.Attributes
import Wordsmith.Proofs.Markup.Encodable
import Wordsmith.Proofs.Markup.Escape
import Wordsmith.Proofs.Markup.Everywhere
import Wordsmith.Proofs.Markup.Grammar
import Wordsmith.Proofs.Markup.Lexicon
import Wordsmith.Proofs.Markup.Reader
import Wordsmith.Proofs.Markup.Replacement
import Wordsmith.Proofs.Markup.Select
import Wordsmith.Proofs.Markup.Tags
import Wordsmith.Proofs.Markup.Unlink
import Wordsmith.Proofs.Markup.Values
import Wordsmith.Proofs.Number.Order
import Wordsmith.Proofs.Number.Rounding
import Wordsmith.Proofs.Package.Append
import Wordsmith.Proofs.Package.Archive
import Wordsmith.Proofs.Package.Blocks
import Wordsmith.Proofs.Package.Body
import Wordsmith.Proofs.Package.Cells
import Wordsmith.Proofs.Package.EncodableBody
import Wordsmith.Proofs.Package.EncodableStyles
import Wordsmith.Proofs.Package.Groups
import Wordsmith.Proofs.Package.Headings
import Wordsmith.Proofs.Package.Hyperlinks
import Wordsmith.Proofs.Package.LinkModes
import Wordsmith.Proofs.Package.Pictures
import Wordsmith.Proofs.Package.Pieces
import Wordsmith.Proofs.Package.PropertyReading
import Wordsmith.Proofs.Package.Relationships
import Wordsmith.Proofs.Package.Relocation
import Wordsmith.Proofs.Package.RunReading
import Wordsmith.Proofs.Package.RunTags
import Wordsmith.Proofs.Package.Separation
import Wordsmith.Proofs.Package.StyleDefinitions
import Wordsmith.Proofs.Package.StyleInheritance
import Wordsmith.Proofs.Package.StyleLexicon
import Wordsmith.Proofs.Package.StyleReader
import Wordsmith.Proofs.Package.StyleReading
import Wordsmith.Proofs.Package.StyleReferences
import Wordsmith.Proofs.Package.StyleStrings
import Wordsmith.Proofs.Package.Surrogates
import Wordsmith.Proofs.Package.TableGeometry
import Wordsmith.Proofs.Package.TextTables
import Wordsmith.Proofs.Package.Texts
import Wordsmith.Proofs.Package.WellFormed
import Wordsmith.Proofs.Service.Disposition
import Wordsmith.Proofs.Style.Measured
import Wordsmith.Proofs.Style.Order
import Wordsmith.Proofs.Style.Slots
import Wordsmith.Proofs.Text.Encoding
import Wordsmith.Proofs.Text.Literal
import Wordsmith.Proofs.Text.Numeral
import Wordsmith.Proofs.Token.Content
import Wordsmith.Proofs.Token.Html
import Wordsmith.Proofs.Token.ImageWords
import Wordsmith.Proofs.Token.Reading
import Wordsmith.Proofs.Token.Regular
import Wordsmith.Proofs.Token.Shape
import Wordsmith.Proofs.Token.Shown
import Wordsmith.Proofs.Token.Tables
import Wordsmith.Proofs.Token.Written
import Wordsmith.Proofs.Tree.Elements
import Wordsmith.Proofs.Tree.Html
import Wordsmith.Proofs.Tree.Inline
import Wordsmith.Proofs.Tree.Items
import Wordsmith.Proofs.Tree.Leaves
import Wordsmith.Proofs.Tree.Regular
import Wordsmith.Proofs.Tree.Texts
import Wordsmith.Proofs.Tree.Walk
import Wordsmith.Proofs.Tree.Words
import Wordsmith.Service
import Wordsmith.Style.Basic
import Wordsmith.Style.Choice
import Wordsmith.Style.Heading
import Wordsmith.Style.Measured
import Wordsmith.Style.Name
import Wordsmith.Style.Page
import Wordsmith.Style.Preset
import Wordsmith.Style.Style
import Wordsmith.Text.Basic
import Wordsmith.Text.Blank
import Wordsmith.Text.CaseFold
import Wordsmith.Text.Decoding
import Wordsmith.Text.Digit
import Wordsmith.Text.Hex
import Wordsmith.Text.Percent
import Wordsmith.Text.Printable
import Wordsmith.Text.Punctuation
import Wordsmith.Text.Quoted
import Wordsmith.Text.Ranges
import Wordsmith.Text.Utf16
import Wordsmith.Text.Utf8
import Wordsmith.Token.Datum
import Wordsmith.Token.Json
import Wordsmith.Token.Tree
import Wordsmith.Token.Typed
import Wordsmith.Token.Writer
import Wordsmith.Tree.Elements
import Wordsmith.Tree.Node
import Wordsmith.Tree.PlainText
import Wordsmith.Tree.Runs
