import Wordsmith.Machine
import Wordsmith.Package.Zip
import Wordsmith.Style.Choice
import Wordsmith.Tree.Elements

/-!
# Conversions

From a Markdown text to a package: the tokens of the text, their tree, the elements of the tree, the
parts that a style makes of the elements, and the archive of the parts. A file is decoded first, and the
package stored after. Encodings and tokens come from a `Machine`. What happens on the way can be told as
a sequence of events.
-/

namespace Wordsmith

/-! ### Events -/

/-- What may happen on the way and be told. -/
inductive ConversionEvent where
  /-- A block has no element. -/
  | dropped (kind : NodeKind)
  | translated (count : Nat)
  | encoded (entry : Entry)
  | rendered (size : Nat)
  | written (path : Path)

/-- The wording of an event, with the part of the program that it happens in; `showSize` writes the
size of an archive. -/
def ConversionEvent.message (showSize : Nat → Text) : ConversionEvent → Text
  | .dropped kind =>
    "md2docx.translator: Dropping unsupported block node " ++ Text.ofString kind.name
  | .translated count =>
    "md2docx.converter: Translated " ++ Text.ofNat count ++ " top-level elements"
  | .encoded entry =>
    "md2docx.renderer: Part " ++ entry.name ++ ": " ++ Text.ofNat entry.size ++ " bytes"
  | .rendered size => "md2docx.converter: Rendered DOCX archive of " ++ showSize size ++ " bytes"
  | .written path => "md2docx.converter: Wrote " ++ path.toText

/-- What happens until the elements of a tree are made. -/
def Node.events (n : Node) : List ConversionEvent :=
  (n.children.filter fun child => !child.kind.isBlock).map (fun child => .dropped child.kind) ++
    [.translated n.elements.length]

/-! ### Errors -/

/-- Why there is no conversion: one case for each step that can fail. -/
inductive ConversionError where
  | file (e : FileError)
  | decoding (e : DecodingError)
  /-- There are no tokens. -/
  | tokenizer (message : Text)
  /-- The tokens are no tree. -/
  | shape (e : ShapeError)
  /-- The tree has no package. -/
  | package (tree : Node) (e : PackageError)

def ShapeError.message : ShapeError → Text
  | .noFields => "a token has no fields"
  | .noItems => "the content of a token cannot be walked through"

namespace ConversionError

/-- The wording of an error is that of the step that failed. -/
def message : ConversionError → Text
  | .file e => e.message
  | .decoding e => e.message
  | .tokenizer message => message
  | .shape e => e.message
  | .package _ e => e.message

/-- What has happened before the error. -/
def events : ConversionError → List ConversionEvent
  | .package tree _ => tree.events
  | _ => []

end ConversionError

/-! ### Conversions -/

/-- A Markdown text on its way to a package. -/
structure Conversion where
  tree : Node
  archive : Archive

namespace Conversion

/-- The elements of the document that the text became. -/
def elements (c : Conversion) : List Element := c.tree.elements

/-- The bytes of the package. -/
def bytes (c : Conversion) : List UInt8 := c.archive.bytes

/-- What happens until the archive is made. -/
def events (c : Conversion) : List ConversionEvent :=
  c.tree.events ++ c.archive.entries.map .encoded ++ [.rendered c.bytes.length]

end Conversion

/-- The conversion of a Markdown text with a style. -/
def Style.convert (s : Style) (m : Machine) (t : Text) : Except ConversionError Conversion := do
  let answer ← (m.tokenize t).mapError .tokenizer
  let tree ← (Node.ofDocument answer).mapError .shape
  return { tree, archive := ← (s.package tree.elements).mapError (.package tree) }

/-- The conversion of a Markdown file with a style. -/
def Style.convertFile (s : Style) (m : Machine) (folder : Folder) (input : Path) (encoding : Text) :
    Except ConversionError Conversion := do
  -- a missing file is reported before an unknown encoding
  let data ← (folder.read m.refusals input).mapError .file
  let text ← (m.decodeFile encoding data).mapError .decoding
  s.convert m (Encoding.unifyLineEndings false text)

/-- Stores the package of a conversion at a path; what has been left in the folder by then is not told.
-/
def Conversion.save (c : Conversion) (m : Machine) (folder : Folder) (output : Path) :
    Except ConversionError Folder :=
  (folder.save m.refusals output c.bytes).mapError fun i => .file i.error

end Wordsmith
