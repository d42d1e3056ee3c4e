import Wordsmith.Proofs.Markup.Select
import Wordsmith.Style.Style

/-!
# A reader of styles parts

The styles part says all that a style has to say about anything but the page and links. It can be
read by someone who does not know how the part is written: a style is looked up by its identifier, a
property by its tag, and a value by its attribute. `Style.ofPart?` does so.

What can be found is not quite the style itself (`Style.carried`):

* distances that are not positive are not written, so they are read as zero;
* there is one rule for the lines of running paragraphs, from their own exact height or from the
  line spacing of the document, and no rule without a value;
* the page, the links, and what a heading style itself takes for its level are not there.
-/

namespace Wordsmith

open Xml

/-! ## The reader

Each function asks for one property after another and gives up if one is missing that is always
written. What may be missing has a default: a distance zero, a rule none, an alignment at the left. -/

/-- The font in the run properties of an element. -/
def Font.read? (x : Xml) : Option Font := do
  let properties ← x.child? "w:rPr"
  let name ← properties.childAttribute? "w:rFonts" "w:ascii"
  let size ← properties.childNumber? "w:sz" "w:val"
  let color ← properties.childAttribute? "w:color" "w:val"
  return { name, size, color }

/-- The spacing in the properties of a paragraph. -/
def Spacing.read (properties : Xml) : Spacing where
  before := (properties.childNumber? "w:spacing" "w:before").getD 0
  after := (properties.childNumber? "w:spacing" "w:after").getD 0
  line := properties.childNumber? "w:spacing" "w:line"

/-- The rules for lines under the names that the format has for them. -/
def LineRule.written : List (String × LineRule) :=
  [("auto", .multiple), ("atLeast", .atLeast), ("exactly", .exactly)]

/-- The rule for lines in the properties of a paragraph. -/
def LineSpacing.read (properties : Xml) : LineSpacing :=
  let rule? : Option LineRule :=
    (properties.childAttribute? "w:spacing" "w:lineRule").bind (Text.named? LineRule.written)
  match rule? with
  | some rule => { rule, value := properties.childNumber? "w:spacing" "w:line" }
  | none => {}

/-- The indentation in the properties of a paragraph. -/
def Indentation.read (properties : Xml) : Indentation where
  left := (properties.childNumber? "w:ind" "w:left").getD 0
  right := (properties.childNumber? "w:ind" "w:right").getD 0
  firstLine := properties.childNumber? "w:ind" "w:firstLine"
  hanging := properties.childNumber? "w:ind" "w:hanging"

/-- The alignment in the properties of a paragraph; lines are set at the left if there is none. -/
def Alignment.read (properties : Xml) : Alignment :=
  ((properties.childAttribute? "w:jc" "w:val").bind (Text.named? Alignment.names)).getD .left

/-- One side of a border. -/
def BorderSide.read? (x : Xml) : Option BorderSide := do
  let width ← (x.attribute? "w:sz").bind Text.toInt?
  let color ← x.attribute? "w:color"
  let style ← (x.attribute? "w:val").bind (Text.named? BorderStyle.names)
  return { width, color, style }

/-- The four sides of a border in the child with this tag. -/
def Border.read (tag : String) (properties : Xml) : Border :=
  let side (edge : String) : Option BorderSide :=
    ((properties.child? tag).bind (·.child? edge)).bind BorderSide.read?
  { top := side "w:top", right := side "w:right", bottom := side "w:bottom", left := side "w:left" }

/-- The rule for the lines of running paragraphs. -/
def LineSpacing.read? (x : Xml) : Option LineSpacing := (x.child? "w:pPr").map LineSpacing.read

/-- The style of running paragraphs. -/
def ParagraphStyles.read? (x : Xml) : Option ParagraphStyles := do
  let properties ← x.child? "w:pPr"
  let normal : ParagraphStyle :=
    { font := Font.read? x, alignment := .read properties, indentation := .read properties }
  return { normal, spacing := { Spacing.read properties with line := none } }

/-- A heading style, whose level is one more than its outline level. -/
def HeadingStyle.read? (x : Xml) : Option HeadingStyle := do
  let font ← Font.read? x
  let properties ← x.child? "w:pPr"
  let outline ← properties.childNumber? "w:outlineLvl" "w:val"
  return {
    level := outline + 1
    font
    spacing := .read properties
    keepWithNext := properties.hasChild "w:keepNext"
    keepLines := properties.hasChild "w:keepLines" }

/-- The style of code blocks. -/
def CodeBlockStyle.read? (x : Xml) : Option CodeBlockStyle := do
  let font ← Font.read? x
  let properties ← x.child? "w:pPr"
  let background ← properties.childAttribute? "w:shd" "w:fill"
  return {
    font
    background
    border := .read "w:pBdr" properties
    indentation := .read properties
    spacing := .read properties }

/-- The style of quotes. -/
def QuoteStyle.read? (x : Xml) : Option QuoteStyle := do
  let font ← Font.read? x
  let properties ← x.child? "w:pPr"
  return {
    font
    border := .read "w:pBdr" properties
    indentation := .read properties
    spacing := .read properties }

/-- The distance of list items from the left margin. -/
def ListStyle.readIndentation? (x : Xml) : Option Int :=
  (x.child? "w:pPr").map fun properties => (Indentation.read properties).left

/-- The borders of tables and the padding of their cells. -/
def TableStyle.readGrid? (x : Xml) : Option (Border × Int) := do
  let properties ← x.child? "w:tblPr"
  let margins ← properties.child? "w:tblCellMar"
  let cellPadding ← margins.childNumber? "w:top" "w:w"
  return (.read "w:tblBorders" properties, cellPadding)

namespace Xml

/-- The identifier of a style, absent for anything else. -/
def styleId? (x : Xml) : Option Text :=
  if x.hasTag "w:style" then x.attribute? "w:styleId" else none

/-- The style with this identifier among the children. -/
def style? (id : Text) (root : Xml) : Option Xml :=
  root.content.find? fun x => x.styleId? = some id

end Xml

/-- All slots, from the first to the last. -/
def HeadingSlot.all : List HeadingSlot := [.h1, .h2, .h3, .h4, .h5, .h6]

/-- The identifier of the style for headings in this slot. -/
def HeadingSlot.styleId (slot : HeadingSlot) : Text := "Heading" ++ Text.ofNat slot.level

/-- The six heading styles, each under the identifier of its slot. -/
def HeadingStyles.read? (root : Xml) : Option HeadingStyles := do
  let heading (slot : HeadingSlot) : Option HeadingStyle :=
    (root.style? slot.styleId).bind HeadingStyle.read?
  return {
    h1 := ← heading .h1
    h2 := ← heading .h2
    h3 := ← heading .h3
    h4 := ← heading .h4
    h5 := ← heading .h5
    h6 := ← heading .h6 }

/-- The styles of lists. Both have one indentation, which is read from the first. -/
def ListStyle.read? (root : Xml) : Option ListStyle := do
  return {
    bulletFont := ← (root.style? "ListBullet").bind Font.read?
    numberedFont := ← (root.style? "ListNumber").bind Font.read?
    indentation := ← (root.style? "ListBullet").bind ListStyle.readIndentation? }

/-- The style of tables, and the fonts of the two styles of cells. -/
def TableStyle.read? (root : Xml) : Option TableStyle := do
  let (border, cellPadding) ← (root.style? "TableGrid").bind TableStyle.readGrid?
  return {
    border
    cellPadding
    headerFont := ← (root.style? "TableHeader").bind Font.read?
    bodyFont := ← (root.style? "TableBody").bind Font.read? }

/-- The style that a styles part carries, on a plain page and with plain links. -/
def Style.read? (root : Xml) : Option Style := do
  let defaults ← (root.child? "w:docDefaults").bind (·.child? "w:rPrDefault")
  return {
    defaultFont := ← Font.read? defaults
    lineSpacing := ← (root.style? "Normal").bind LineSpacing.read?
    headings := ← HeadingStyles.read? root
    paragraphs := ← (root.style? "Normal").bind ParagraphStyles.read?
    codeBlocks := ← (root.style? "CodeBlock").bind CodeBlockStyle.read?
    quotes := ← (root.style? "Quote").bind QuoteStyle.read?
    tables := ← TableStyle.read? root
    lists := ← ListStyle.read? root }

/-- The style that the text of a styles part carries. -/
def Style.ofPart? (t : Text) : Option Style := (Xml.read? t).bind Style.read?

/-! ## What the part carries

The exceptions in one place: what a reader cannot find is set to what it finds instead, block by block
of a style. -/

/-- The spacing without negative distances. -/
def Spacing.carried (s : Spacing) : Spacing :=
  { s with before := max s.before 0, after := max s.after 0 }

/-- The indentation without negative distances on either side. -/
def Indentation.carried (i : Indentation) : Indentation :=
  { i with left := max i.left 0, right := max i.right 0 }

/-- The rule for the lines of paragraphs with this spacing in a document with this line spacing. -/
def Spacing.lineRule (s : Spacing) (lineSpacing : LineSpacing) : LineSpacing :=
  match s.line, lineSpacing.rule, lineSpacing.value with
  | some line, _, _ => { rule := .exactly, value := line }
  | none, .auto, _ | none, _, none => {}
  | none, rule, some value => { rule, value }

/-- The level is that of the slot. -/
def HeadingStyle.carried (slot : HeadingSlot) (s : HeadingStyle) : HeadingStyle :=
  { s with level := slot.level, spacing := s.spacing.carried }

/-- The six heading styles in their slots. -/
def HeadingStyles.carried (s : HeadingStyles) : HeadingStyles where
  h1 := s.h1.carried .h1
  h2 := s.h2.carried .h2
  h3 := s.h3.carried .h3
  h4 := s.h4.carried .h4
  h5 := s.h5.carried .h5
  h6 := s.h6.carried .h6

/-- The height of lines is read as a rule of the document (`Spacing.lineRule`). -/
def ParagraphStyles.carried (s : ParagraphStyles) : ParagraphStyles where
  normal := { s.normal with indentation := s.normal.indentation.carried }
  spacing := { s.spacing.carried with line := none }

/-- Only distances are lost of code blocks. -/
def CodeBlockStyle.carried (s : CodeBlockStyle) : CodeBlockStyle :=
  { s with indentation := s.indentation.carried, spacing := s.spacing.carried }

/-- And of quotes. -/
def QuoteStyle.carried (s : QuoteStyle) : QuoteStyle :=
  { s with indentation := s.indentation.carried, spacing := s.spacing.carried }

/-- And of lists. -/
def ListStyle.carried (s : ListStyle) : ListStyle := { s with indentation := max s.indentation 0 }

/-- The style as far as the styles part carries it. -/
def Style.carried (s : Style) : Style where
  defaultFont := s.defaultFont
  lineSpacing := s.paragraphs.spacing.lineRule s.lineSpacing
  headings := s.headings.carried
  paragraphs := s.paragraphs.carried
  codeBlocks := s.codeBlocks.carried
  quotes := s.quotes.carried
  tables := s.tables
  lists := s.lists.carried

end Wordsmith
