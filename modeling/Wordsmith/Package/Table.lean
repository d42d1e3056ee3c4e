import Wordsmith.Package.Property

/-!
# Tables in the body

All columns of a table are equally wide and share the text width of the page. Rows shorter than the
first one are filled up with empty cells, and a cell without content holds an empty paragraph, since
a cell ends with a paragraph. What the content of a cell is, is not decided here.
-/

namespace Wordsmith

/-- The style of paragraphs in the head or in the body of a table. -/
def cellStyle (header : Bool) : Text := if header then "TableHeader" else "TableBody"

/-- The width of a column where there is no text width to share. -/
def fallbackColumnWidth : Int := 2000

/-- The width of one of `count` equal columns. -/
def columnWidth (contentWidth : Int) (count : Int) : Int :=
  if count ≤ 0 then fallbackColumnWidth
  else
    let width := contentWidth.fdiv count
    if 0 < width then width else fallbackColumnWidth

/-- A row of a table whose cells are written already. -/
structure RowMarkup where
  header : Bool
  cells : List (List Markup)

namespace Markup

/-- A width in twips; `dxa` is the name of the unit. -/
def width (tag : String) (n : Int) : Markup := .empty tag [.int "w:w" n, .fixed "w:type" "dxa"]

/-- A cell with its width and its content. -/
def tableCell (columnWidth : Int) (content : List Markup) : Markup :=
  .element "w:tc" []
    (.element "w:tcPr" [] [width "w:tcW" columnWidth] ::
      -- a cell has to end with a paragraph
      if content.isEmpty then [.empty "w:p" []] else content)

/-- A row, filled up to `count` cells. -/
def tableRow (count : Nat) (columnWidth : Int) (row : RowMarkup) : Markup :=
  let padding := List.replicate (count - row.cells.length) []
  .element "w:tr" []
    -- a header row is repeated on every page
    ((if row.header then [.element "w:trPr" [] [.empty "w:tblHeader" []]] else []) ++
      (row.cells ++ padding).map (tableCell columnWidth))

/-- A table; without rows there is none. -/
def table (contentWidth : Int) (rows : List RowMarkup) : List Markup :=
  match rows with
  | [] => []
  | first :: _ =>
    let count := max first.cells.length 1
    let columnWidth := columnWidth contentWidth count
    [.element "w:tbl" []
      ([.element "w:tblPr" []
          [value "w:tblStyle" "TableGrid", width "w:tblW" (columnWidth * count)],
        .element "w:tblGrid" [] (List.replicate count (.empty "w:gridCol" [.int "w:w" columnWidth]))]
        ++ rows.map (tableRow count columnWidth))]

end Markup

/-- The style of all tables: their borders, and the padding of cells. -/
def TableStyle.markup (s : TableStyle) : Markup :=
  -- borders also run between the cells if the box is closed
  let inner : List Markup :=
    match s.border.top, s.border.left, s.border.bottom, s.border.right with
    | some top, some left, some _, some _ => [top.markup "insideH", left.markup "insideV"]
    | _, _, _, _ => []
  let borders : List Markup :=
    if s.border.isEmpty then [] else [.element "w:tblBorders" [] (s.border.sideMarkup ++ inner)]
  .element "w:style" [.fixed "w:type" "table", .fixed "w:styleId" "TableGrid"]
    [.value "w:name" "Table Grid",
      .element "w:tblPr" []
        (borders ++
          [.element "w:tblCellMar" []
            (["w:top", "w:left", "w:bottom", "w:right"].map (.width · s.cellPadding))])]

end Wordsmith
