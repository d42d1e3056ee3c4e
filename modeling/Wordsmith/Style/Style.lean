import Wordsmith.Style.Heading
import Wordsmith.Style.Name

/-!
# The style of a document

A `Style` fixes everything about a document but its content. The style without any choice made is
Calibri at twelve points on letter paper.
-/

namespace Wordsmith

/-- The style of a running paragraph; without a font it has the document's. -/
structure ParagraphStyle where
  font : Option Font := none
  alignment : Alignment := .left
  indentation : Indentation := {}
deriving DecidableEq

/-- The style of all running paragraphs and the space around them. -/
structure ParagraphStyles where
  normal : ParagraphStyle := {}
  spacing : Spacing := {}
deriving DecidableEq

/-- The style of code blocks; its font is also that of code inside a line. -/
structure CodeBlockStyle where
  font : Font := { name := "Consolas", size := 20, color := "C7254E" }
  background : Text := "F5F5F5"
  border : Border := {}
  indentation : Indentation := { left := 720, right := 720 }
  spacing : Spacing := { before := 120, after := 120 }
deriving DecidableEq

/-- The style of quotations, which have a line at their left unless another border is chosen. -/
structure QuoteStyle where
  font : Font := {}
  border : Border := { left := some { width := 8, color := "CCCCCC" } }
  indentation : Indentation := { left := 720, right := 720 }
  spacing : Spacing := { before := 120, after := 120 }
deriving DecidableEq

/-- The style of tables; the padding of a cell is in twips. -/
structure TableStyle where
  border : Border := {}
  cellPadding : Int := 120
  headerFont : Font := {}
  bodyFont : Font := {}
deriving DecidableEq

/-- The style of lists: a font for each kind, and one indentation for both. -/
structure ListStyle where
  bulletFont : Font := {}
  numberedFont : Font := {}
  indentation : Int := 720
deriving DecidableEq

/-- The style of a document. Its defaults make up the style without any choice. -/
structure Style where
  pageSize : PageSize := {}
  pageMargins : PageMargins := {}
  defaultFont : Font := {}
  lineSpacing : LineSpacing := {}
  headings : HeadingStyles := {}
  paragraphs : ParagraphStyles := {}
  codeBlocks : CodeBlockStyle := {}
  quotes : QuoteStyle := {}
  tables : TableStyle := {}
  lists : ListStyle := {}
  linkColor : Text := "0066cc"
  linkMode : LinkMode := .coloredText
deriving DecidableEq

/-- The width between the left and the right margin. -/
def Style.contentWidth (s : Style) : Int :=
  s.pageSize.width - s.pageMargins.left - s.pageMargins.right

end Wordsmith
