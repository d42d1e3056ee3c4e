import Wordsmith.Document.Element
import Wordsmith.Package.Runs
import Wordsmith.Package.Table

/-!
# The body of a document

Each element becomes block markup. Images are numbered from one on in reading order, images in table
cells included: an element is written with the number of the image to come next
(`Element.markup`), and `Element.imageCount` says how many it uses up.
-/

namespace Wordsmith

/-- What the body depends on besides the elements. -/
structure BodyPolicy where
  links : LinkPolicy
  /-- The width between the margins. -/
  contentWidth : Int

namespace Markup

/-- A paragraph with these properties; without any, they are left out. -/
def paragraph (properties content : List Markup) : Markup :=
  .element "w:p" []
    ((if properties.isEmpty then [] else [.element "w:pPr" [] properties]) ++ content)

/-- A reference to a paragraph style by its identifier. -/
def styleReference (id : Text) : Markup := .value "w:pStyle" id

/-- A heading; a level outside one to six counts as one. -/
def heading (level : Int) (text : Text) : Markup :=
  paragraph [styleReference ("Heading" ++ Text.ofNat (HeadingSlot.ofLevel level).level)]
    [.element "w:r" [] [runText text]]

/-- A block of code; its line breaks stay in one text. -/
def codeBlock (code : Text) : Markup :=
  paragraph [styleReference "CodeBlock"]
    [.element "w:r" [] [.element "w:rPr" [] [value "w:rStyle" "Code"], runText code]]

/-- The properties of a list item: its style, its depth and the list it counts in. -/
def itemProperties (style : Text) (list level : Int) : List Markup :=
  [styleReference style,
    .element "w:numPr" [] [value "w:ilvl" (.ofInt level), value "w:numId" (.ofInt list)]]

/-- A rule, which is an empty paragraph with a line below it. -/
def horizontalRule : Markup :=
  paragraph
    [.element "w:pBdr" []
      [.empty "w:bottom"
        [.fixed "w:val" "single", .fixed "w:sz" "6", .fixed "w:space" "1",
          .fixed "w:color" "auto"]]] []

/-- The place of an image: six inches wide, with the words for it. The image itself is not stored. -/
def image (number : Nat) (altText : Text) : Markup :=
  let width := Attribute.fixed "cx" "5486400"
  let height := Attribute.fixed "cy" "3086400"
  let words := altText.strip
  .element "w:p" []
    [.element "w:r" []
      [.element "w:drawing" []
        [.element "wp:inline"
          [.fixed "distT" "0", .fixed "distB" "0", .fixed "distL" "0", .fixed "distR" "0"]
          [.empty "wp:extent" [width, height],
            .empty "wp:docPr"
              [.int "id" number, .verbatim "name" ("Picture " ++ Text.ofNat number),
                .escaped "descr" words],
            .element "a:graphic" []
              [.element "a:graphicData" [.fixed "uri" Vocabulary.pictures]
                [.element "pic:pic" []
                  [.element "pic:nvPicPr" []
                    [.empty "pic:cNvPr" [.fixed "id" "0", .escaped "name" words],
                      .empty "pic:cNvPicPr" []],
                    .element "pic:blipFill" [] [.empty "a:blip" [.fixed "r:embed" "rId1"]],
                    .element "pic:spPr" []
                      [.element "a:xfrm" []
                        [.empty "a:off" [.fixed "x" "0", .fixed "y" "0"],
                          .empty "a:ext" [width, height]]]]]]]]]]

end Markup

/-- The paragraphs of the items of a list. -/
def ListItem.allMarkup (p : LinkPolicy) (style : Text) (list : Int) (items : List ListItem) :
    List Markup :=
  items.map fun item =>
    .paragraph (Markup.itemProperties style list item.level) (Run.allMarkup p item.runs)

mutual

/-- The number of images in an element that are written. -/
def Element.imageCount : Element → Nat
  | .image .. => 1
  | .table rows => Row.imageCounts rows
  | _ => 0

/-- The number of images in the rows of a table. -/
def Row.imageCounts : List Row → Nat
  | [] => 0
  | ⟨cells, _⟩ :: rows => Cell.imageCounts cells + Row.imageCounts rows

/-- The number of images in the cells of a row. -/
def Cell.imageCounts : List Cell → Nat
  | [] => 0
  | ⟨content⟩ :: cells => Element.imageCounts content + Cell.imageCounts cells

/-- The number of images in a sequence of elements. -/
def Element.imageCounts : List Element → Nat
  | [] => 0
  | e :: es => e.imageCount + Element.imageCounts es

end

mutual

/-- An element in the body. Its first image, if it has one, gets the number `next`; a paragraph that
stands in a table cell has the style `cell`. -/
def Element.markup (p : BodyPolicy) (cell : Option Text) (next : Nat) : Element → List Markup
  | .heading level text => [.heading level text]
  | .paragraph runs =>
    [.paragraph (cell.toList.map fun style => .styleReference style) (Run.allMarkup p.links runs)]
  | .quote runs => [.paragraph [.styleReference "Quote"] (Run.allMarkup p.links runs)]
  | .bulletList items => ListItem.allMarkup p.links "ListBullet" 1 items
  | .numberedList items => ListItem.allMarkup p.links "ListNumber" 2 items
  | .codeBlock _ code => [.codeBlock code]
  | .table rows => Markup.table p.contentWidth (Row.allMarkup p next rows)
  | .horizontalRule => [.horizontalRule]
  | .image altText _ => [.image next altText]
  -- parts of an element are no blocks
  | .loneRun _ | .loneItem _ | .loneRow _ | .loneCell _ => []

/-- The rows of a table, their cells written. -/
def Row.allMarkup (p : BodyPolicy) (next : Nat) : List Row → List RowMarkup
  | [] => []
  | ⟨cells, header⟩ :: rows =>
    ⟨header, Cell.allMarkup p (cellStyle header) next cells⟩ ::
      Row.allMarkup p (next + Cell.imageCounts cells) rows

/-- The content of the cells of a row, whose paragraphs take the style of the row. -/
def Cell.allMarkup (p : BodyPolicy) (style : Text) (next : Nat) :
    List Cell → List (List Markup)
  | [] => []
  | ⟨content⟩ :: cells =>
    Element.allMarkup p (some style) next content ::
      Cell.allMarkup p style (next + Element.imageCounts content) cells

/-- A sequence of elements, with the images numbered through. -/
def Element.allMarkup (p : BodyPolicy) (cell : Option Text) (next : Nat) :
    List Element → List Markup
  | [] => []
  | e :: es => e.markup p cell next ++ Element.allMarkup p cell (next + e.imageCount) es

end

/-- The size and the margins of the pages. -/
def sectionMarkup (size : PageSize) (margins : PageMargins) : Markup :=
  .element "w:sectPr" []
    [.empty "w:pgSz" [.int "w:w" size.width, .int "w:h" size.height],
      .empty "w:pgMar"
        [.int "w:top" margins.top, .int "w:right" margins.right, .int "w:bottom" margins.bottom,
          .int "w:left" margins.left, .int "w:header" margins.header,
          .int "w:footer" margins.footer, .int "w:gutter" margins.gutter]]

/-- The document part: the elements, and the page geometry at their end. -/
def documentMarkup (p : BodyPolicy) (size : PageSize) (margins : PageMargins)
    (elements : List Element) : Markup :=
  .element "w:document"
    [.fixed "xmlns:w" Vocabulary.main, .fixed "xmlns:r" Vocabulary.references,
      .fixed "xmlns:wp" Vocabulary.drawings, .fixed "xmlns:a" Vocabulary.graphics,
      .fixed "xmlns:pic" Vocabulary.pictures]
    [.element "w:body" []
      (Element.allMarkup p none 1 elements ++ [sectionMarkup size margins])]

end Wordsmith
