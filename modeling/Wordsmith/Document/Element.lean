import Wordsmith.Document.Run

/-!
# Document elements

The elements of a document in reading order. A list is flat: each item knows its depth. A table cell
holds elements again, tables included.

Parts of an element (a run, a list item, a row, a cell) may stand where an element is expected. They
are no blocks: nothing is written for them.
-/

namespace Wordsmith

/-- An entry of a list; `level` counts the lists around its own. -/
structure ListItem where
  runs : List Run := []
  level : Int := 0
deriving DecidableEq

mutual

/-- An element of a document. Lists hold runs only, while tables hold elements. -/
inductive Element where
  | heading (level : Int) (text : Text)
  | paragraph (runs : List Run)
  | quote (runs : List Run)
  | bulletList (items : List ListItem)
  | numberedList (items : List ListItem)
  | codeBlock (language : Option Text) (code : Text)
  | table (rows : List Row)
  | horizontalRule
  | image (altText source : Text)
  | loneRun (run : Run)
  | loneItem (item : ListItem)
  | loneRow (row : Row)
  | loneCell (cell : Cell)

/-- A row of a table: its cells from left to right, and whether it belongs to the head. -/
inductive Row where
  | mk (cells : List Cell) (header : Bool)

/-- A cell of a table with the elements in it. -/
inductive Cell where
  | mk (content : List Element)

end

namespace Row

/-- The cells of a row from left to right. -/
def cells : Row → List Cell
  | ⟨cells, _⟩ => cells

/-- The row belongs to the head of the table. -/
def header : Row → Bool
  | ⟨_, header⟩ => header

end Row

namespace Cell

/-- The elements in a cell. -/
def content : Cell → List Element
  | ⟨content⟩ => content

end Cell

/-- The number of columns of a table: the number of cells in its first row. -/
def columnCount (rows : List Row) : Nat := (rows.head?.map fun row => row.cells.length).getD 0

namespace Element

/-- The name of the kind of an element. -/
def kind : Element → String
  | .heading .. => "heading"
  | .paragraph _ => "paragraph"
  | .quote _ => "blockquote"
  | .bulletList _ => "bullet_list"
  | .numberedList _ => "numbered_list"
  | .codeBlock .. => "code_block"
  | .table _ => "table"
  | .horizontalRule => "horizontal_rule"
  | .image .. => "image"
  | .loneRun _ => "text_run"
  | .loneItem _ => "list_item"
  | .loneRow _ => "table_row"
  | .loneCell _ => "table_cell"

end Element

end Wordsmith
