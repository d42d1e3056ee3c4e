import Wordsmith.Package.Table
import Wordsmith.Package.Vocabulary

/-!
# The styles part

Every style that the body refers to is defined here, once, from the style of the document.
-/

namespace Wordsmith

namespace Markup

/-- The definition of a style: its type, its identifier, and what it consists of. -/
def styleDefinition (type : String) (id : Text) (content : List Markup) : Markup :=
  .element "w:style" [.fixed "w:type" type, .verbatim "w:styleId" id] content

/-- The definition of a paragraph style that is based on the running paragraph. -/
def paragraphStyle (id name : Text) (content : List Markup) : Markup :=
  styleDefinition "paragraph" id
    ([value "w:name" name, value "w:basedOn" "Normal"] ++ content)

/-- Shading in a colour that is written as it is. -/
def shading (fill : Text) : Markup :=
  .empty "w:shd" [.fixed "w:val" "clear", .fixed "w:color" "auto", .verbatim "w:fill" fill]

end Markup

/-- What holds where no style says otherwise. -/
def Font.defaultsMarkup (f : Font) : Markup :=
  .element "w:docDefaults" []
    [.element "w:rPrDefault" []
      [.element "w:rPr" []
        ([faceMarkup f.name, f.colorMarkup] ++ f.sizeMarkup ++
          [.empty "w:lang"
            [.fixed "w:val" "en-US", .fixed "w:eastAsia" "en-US", .fixed "w:bidi" "ar-SA"]])]]

/-- The style of running paragraphs. -/
def ParagraphStyles.markup (s : ParagraphStyles) (lineSpacing : LineSpacing) : Markup :=
  let alignment : List Markup :=
    if s.normal.alignment = .left then [] else [.value "w:jc" s.normal.alignment.name]
  .element "w:style"
    [.fixed "w:type" "paragraph", .fixed "w:default" "1", .fixed "w:styleId" "Normal"]
    ([.value "w:name" "Normal", .empty "w:qFormat" [],
      .element "w:pPr" []
        (s.spacing.markup lineSpacing ++ s.normal.indentation.markup ++ alignment)] ++
      s.normal.font.toList.map fun font => font.markup)

def HeadingStyle.markup (level : Nat) (s : HeadingStyle) : Markup :=
  .styleDefinition "paragraph" ("Heading" ++ Text.ofNat level)
    [.value "w:name" ("heading " ++ Text.ofNat level), .value "w:basedOn" "Normal",
      .value "w:next" "Normal", .value "w:uiPriority" "9", .empty "w:qFormat" [],
      .element "w:pPr" []
        ((if s.keepWithNext then [.empty "w:keepNext" []] else []) ++
          (if s.keepLines then [.empty "w:keepLines" []] else []) ++ s.spacing.markup ++
          [.value "w:outlineLvl" (.ofInt (level - 1))]),
      s.font.markup true false (some 32)]

def CodeBlockStyle.markup (s : CodeBlockStyle) : Markup :=
  .paragraphStyle "CodeBlock" "Code Block"
    [.element "w:pPr" []
      (s.border.paragraphMarkup ++ [.shading s.background] ++ s.spacing.markup ++
        s.indentation.markup),
      s.font.markup]

/-- The style of code inside a line: the font of code blocks on a pale ground. -/
def CodeBlockStyle.inlineMarkup (s : CodeBlockStyle) : Markup :=
  .styleDefinition "character" "Code"
    [.value "w:name" "Code", s.font.markup false false none [.shading "F9F2F4"]]

/-- The style of quotations, in italics. -/
def QuoteStyle.markup (s : QuoteStyle) : Markup :=
  .paragraphStyle "Quote" "Quote"
    [.element "w:pPr" []
      (s.border.paragraphMarkup ++ s.spacing.markup ++ s.indentation.markup),
      s.font.markup false true]

/-- The styles of list items, with bullets and with numbers. -/
def ListStyle.markup (s : ListStyle) : List Markup :=
  let item (id name : Text) (font : Font) : Markup :=
    .paragraphStyle id name
      [.element "w:pPr" [] ({ left := s.indentation : Indentation }).markup, font.markup]
  [item "ListBullet" "List Bullet" s.bulletFont, item "ListNumber" "List Number" s.numberedFont]

/-- The styles of paragraphs in the head and in the body of a table. -/
def TableStyle.cellMarkup (s : TableStyle) : List Markup :=
  [.paragraphStyle (cellStyle true) "Table Header" [s.headerFont.markup true],
    .paragraphStyle (cellStyle false) "Table Body" [s.bodyFont.markup]]

def Style.markup (s : Style) : Markup :=
  .element "w:styles" [.fixed "xmlns:w" Vocabulary.main]
    ([s.defaultFont.defaultsMarkup, s.paragraphs.markup s.lineSpacing] ++
      s.headings.toList.zipIdx.map (fun (heading, i) => heading.markup (i + 1)) ++
      [s.codeBlocks.markup, s.quotes.markup] ++ s.lists.markup ++ s.tables.cellMarkup ++
      [s.tables.markup, s.codeBlocks.inlineMarkup])

end Wordsmith
