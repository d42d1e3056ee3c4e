import Wordsmith.Markup.Basic

/-!
# Names that the parts of a package share

The namespaces, relationship types and content types of a word processing package, and the line that
every part starts with.
-/

namespace Wordsmith.Vocabulary

/-- The declaration that every part starts with. -/
def declaration : Text := "<?xml version=\"1.0\" encoding=\"UTF-8\" standalone=\"yes\"?>"

/-- A part as text: the declaration and one element. -/
def print (root : Markup) : Text := declaration ++ root.print

/-- The start of the names of all word processing namespaces. -/
def schemas : String := "http://schemas.openxmlformats.org/"

/-- The namespace of word processing elements. -/
def main : String := schemas ++ "wordprocessingml/2006/main"

/-- The namespace of references to relationships. -/
def references : String := schemas ++ "officeDocument/2006/relationships"

/-- The namespace of drawings inside a word processing document. -/
def drawings : String := schemas ++ "drawingml/2006/wordprocessingDrawing"

def graphics : String := schemas ++ "drawingml/2006/main"

def pictures : String := schemas ++ "drawingml/2006/picture"

def contentTypes : String := schemas ++ "package/2006/content-types"

def relationships : String := schemas ++ "package/2006/relationships"

/-- The content type of a word processing part of this kind. -/
def wordPart (kind : String) : String :=
  "application/vnd.openxmlformats-officedocument.wordprocessingml." ++ kind ++ "+xml"

/-- The content type of a whole package. -/
def mediaType : Text :=
  "application/vnd.openxmlformats-officedocument.wordprocessingml.document"

/-- A relationship from a part to a target. The relationship types are named after the targets. -/
def relationship (id : Text) (type : String) (target : Text) (mode : List Attribute := []) :
    Markup :=
  .empty "Relationship"
    ([⟨"Id", id⟩, .fixed "Type" (references ++ "/" ++ type), .escaped "Target" target] ++ mode)

/-- The root of a part that lists relationships. -/
def relationshipList (entries : List Markup) : Markup :=
  .element "Relationships" [.fixed "xmlns" relationships] entries

end Wordsmith.Vocabulary
