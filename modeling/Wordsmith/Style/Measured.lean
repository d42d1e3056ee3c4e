import Wordsmith.Style.Style

/-!
# Styles in familiar units

The page, the margins, the document font, spacing, indentation and borders can be given as lengths in
familiar units. Such a value is measured once, before a document is written; that fails only for an
amount that has no number of twips.
-/

namespace Wordsmith

/-- The amount of one half, which is no integer. -/
def Amount.half : Amount := .real (.ofRatio false 1 2)

/-- The twips of a length that may be missing. -/
def Length.twipsOf : Option Length → Except LengthError (Option Int)
  | none => .ok none
  | some l => return some (← l.twips)

/-- A page whose sides are lengths. -/
structure MeasuredPageSize where
  width : Length := .points (.whole 612)
  height : Length := .points (.whole 792)

/-- Margins that are lengths. -/
structure MeasuredMargins where
  top : Length := .inches (.whole 1)
  right : Length := .inches (.whole 1)
  bottom : Length := .inches (.whole 1)
  left : Length := .inches (.whole 1)
  header : Length := .inches .half
  footer : Length := .inches .half
  gutter : Length := .inches (.whole 0)

/-- A font whose size is a length. -/
structure MeasuredFont where
  name : Text := "Calibri"
  size : Length := .points (.whole 12)
  color : Text := "000000"

/-- Spacing whose distances are lengths. -/
structure MeasuredSpacing where
  before : Length := .points (.whole 0)
  after : Length := .points (.whole 0)
  line : Option Length := none

/-- An indentation whose distances are lengths. -/
structure MeasuredIndentation where
  left : Length := .inches (.whole 0)
  right : Length := .inches (.whole 0)
  firstLine : Option Length := none
  hanging : Option Length := none

/-- A side of a border whose width is a length. -/
structure MeasuredBorderSide where
  width : Length := .points .half
  color : Text := "000000"
  style : BorderStyle := .single

/-- A border whose sides are as wide as lengths. -/
structure MeasuredBorder where
  top : Option MeasuredBorderSide := none
  right : Option MeasuredBorderSide := none
  bottom : Option MeasuredBorderSide := none
  left : Option MeasuredBorderSide := none

/-- The page of a paper size, in points. -/
def Paper.measuredPageSize (p : Paper) : MeasuredPageSize :=
  ⟨.points (.whole p.points.1), .points (.whole p.points.2)⟩

namespace MeasuredPageSize

/-- The page in twips. -/
def measure (p : MeasuredPageSize) : Except LengthError PageSize := do
  let width ← p.width.twips
  let height ← p.height.twips
  return { width, height }

end MeasuredPageSize

namespace MeasuredMargins

def measure (m : MeasuredMargins) : Except LengthError PageMargins := do
  let top ← m.top.twips
  let right ← m.right.twips
  let bottom ← m.bottom.twips
  let left ← m.left.twips
  let header ← m.header.twips
  let footer ← m.footer.twips
  let gutter ← m.gutter.twips
  return { top, right, bottom, left, header, footer, gutter }

end MeasuredMargins

namespace MeasuredFont

def measure (f : MeasuredFont) : Except LengthError Font := do
  let size ← f.size.halfPoints
  return { name := f.name, size, color := f.color }

end MeasuredFont

namespace MeasuredSpacing

def measure (s : MeasuredSpacing) : Except LengthError Spacing := do
  let before ← s.before.twips
  let after ← s.after.twips
  let line ← Length.twipsOf s.line
  return { before, after, line }

end MeasuredSpacing

namespace MeasuredIndentation

def measure (i : MeasuredIndentation) : Except LengthError Indentation := do
  let left ← i.left.twips
  let right ← i.right.twips
  let firstLine ← Length.twipsOf i.firstLine
  let hanging ← Length.twipsOf i.hanging
  return { left, right, firstLine, hanging }

end MeasuredIndentation

namespace MeasuredBorderSide

/-- The side with the width that is stored for it: a tenth of its twips. -/
def measure (s : MeasuredBorderSide) : Except LengthError BorderSide := do
  let width ← tenth (← s.width.twips)
  return { width, color := s.color, style := s.style }

/-- A side that may be missing. -/
def measureOption : Option MeasuredBorderSide → Except LengthError (Option BorderSide)
  | none => .ok none
  | some s => return some (← s.measure)

end MeasuredBorderSide

namespace MeasuredBorder

/-- The border with the widths that are stored for it. -/
def measure (b : MeasuredBorder) : Except LengthError Border := do
  let top ← MeasuredBorderSide.measureOption b.top
  let right ← MeasuredBorderSide.measureOption b.right
  let bottom ← MeasuredBorderSide.measureOption b.bottom
  let left ← MeasuredBorderSide.measureOption b.left
  return { top, right, bottom, left }

end MeasuredBorder

/-- A style whose page, margins and document font are in familiar units. -/
structure MeasuredStyle where
  pageSize : MeasuredPageSize := {}
  pageMargins : MeasuredMargins := {}
  defaultFont : MeasuredFont := {}
  lineSpacing : LineSpacing := {}
  headings : HeadingStyles := {}
  paragraphs : ParagraphStyles := {}
  codeBlocks : CodeBlockStyle := {}
  quotes : QuoteStyle := {}
  tables : TableStyle := {}
  lists : ListStyle := {}
  linkColor : Text := "0066cc"
  linkMode : LinkMode := .coloredText

/-- The style that is meant. -/
def MeasuredStyle.measure (s : MeasuredStyle) : Except LengthError Style := do
  let pageSize ← s.pageSize.measure
  let pageMargins ← s.pageMargins.measure
  let defaultFont ← s.defaultFont.measure
  return {
    pageSize
    pageMargins
    defaultFont
    lineSpacing := s.lineSpacing
    headings := s.headings
    paragraphs := s.paragraphs
    codeBlocks := s.codeBlocks
    quotes := s.quotes
    tables := s.tables
    lists := s.lists
    linkColor := s.linkColor
    linkMode := s.linkMode }

/-- A stack of faces: the one that a document names, and those that stand in for it elsewhere. -/
inductive FontStack where
  | system
  | systemMono
  | serif
  | sansSerif
deriving DecidableEq, Repr

namespace FontStack

def names : List (String × FontStack) :=
  [("SYSTEM", .system), ("SYSTEM_MONO", .systemMono), ("SERIF", .serif), ("SANS_SERIF", .sansSerif)]

/-- The face that a document names. -/
def primary : FontStack → Text
  | .system => "Calibri"
  | .systemMono => "Consolas"
  | .serif => "Times New Roman"
  | .sansSerif => "Arial"

/-- The faces that stand in for it, best first. -/
def fallbacks : FontStack → List Text
  | .system =>
    ["-apple-system", "BlinkMacSystemFont", "Segoe UI", "Roboto", "Helvetica Neue", "Arial"]
  | .systemMono => ["SF Mono", "Monaco", "Menlo", "Courier New"]
  | .serif => ["Georgia", "Cambria", "Times"]
  | .sansSerif => ["Helvetica", "Helvetica Neue", "Liberation Sans"]

/-- All faces of the stack, separated by commas. -/
def fullName (s : FontStack) : Text := Text.join ", " (s.primary :: s.fallbacks)

/-- The font of a stack: its first face. Those that stand in for it are not kept. -/
def font (s : FontStack) (size : Length := .points (.whole 12)) (color : Text := "000000") :
    MeasuredFont :=
  { name := s.primary, size, color }

end FontStack

end Wordsmith
