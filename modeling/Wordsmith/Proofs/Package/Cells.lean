import Wordsmith.Proofs.Package.Blocks

/-!
# The cells of tables

Every cell that is written begins with its properties, and at least one block follows. A cell for
which nothing is written gets an empty paragraph, and so do the cells that fill up a row. Nothing is
added after other blocks, so a cell ends with a paragraph unless the last of its elements that are
written is a table (`Style.cells_partText`).

* `Element.gridCells` — the cells that a document should have, with those that fill up its rows.
* `Xml.IsCell` — what a reader should see of one of them.
* `areCells_elements` — that it sees just that, by the walk of the writer.
-/

namespace Wordsmith

open Xml Markup

/-! ## The cells of a document

What a cell is written with is told from its elements by `Element.blocks`, the tags of the blocks of
each. Elements that are not written have none, so a cell of such elements is as good as empty. -/

namespace Cell

/-- The tags of the blocks that are written for a cell. -/
def blocks (c : Cell) : List String :=
  if c.content.all (·.blocks.isEmpty) then ["w:p"] else c.content.flatMap Element.blocks

/-- The last of the elements in the cell that are written is a table. -/
def endsWithTable (c : Cell) : Bool :=
  (c.content.filter fun e => !e.blocks.isEmpty).getLast?.any fun e => e.kind = "table"

end Cell

mutual

/-- The cells of a table and of the tables in it, in reading order; rows are filled up with empty
cells. A cell comes before those in it. -/
def Element.gridCells : Element → List Cell
  | .table rows => Row.allGridCells (max (columnCount rows) 1) rows
  | _ => []

/-- The cells in rows that are filled up to `count` cells. -/
def Row.allGridCells (count : Nat) : List Row → List Cell
  | [] => []
  | ⟨cells, _⟩ :: rows =>
    Cell.allGridCells cells ++
      (List.replicate (count - cells.length) ⟨[]⟩ ++ Row.allGridCells count rows)

/-- Cells, each with those in it. -/
def Cell.allGridCells : List Cell → List Cell
  | [] => []
  | ⟨content⟩ :: cells => ⟨content⟩ :: (Element.allGridCells content ++ Cell.allGridCells cells)

/-- The cells of all tables among the elements. -/
def Element.allGridCells : List Element → List Cell
  | [] => []
  | e :: es => e.gridCells ++ Element.allGridCells es

end

/-- A cell as it is written: its properties and its blocks, the last of them a paragraph unless the
cell ends with a table. -/
structure Xml.IsCell (x : Xml) (c : Cell) : Prop where
  blocks : HaveTags x.content ("w:tcPr" :: c.blocks)
  last : ∃ y, x.content.getLast? = some y ∧
    y.hasTag (if c.endsWithTable then "w:tbl" else "w:p") = true

/-! ## The last block

An element is written with blocks of one kind only, so the last block of a cell is told by the last
element that has any. -/

/-- The blocks of one element are all of one kind. -/
theorem Element.getLast?_blocks {e : Element} (h : e.blocks ≠ []) :
    e.blocks.getLast? = some (if e.kind = "table" then "w:tbl" else "w:p") := by
  -- a list that is not empty ends with a paragraph
  have hitems : ∀ items : List ListItem, items.map (fun _ => "w:p") ≠ [] →
      (items.map fun _ => "w:p").getLast? = some "w:p" := by
    intro items hne
    rw [List.getLast?_map, List.getLast?_eq_some_getLast (List.map_eq_nil_iff.not.mp hne)]
    rfl
  cases e with
  | bulletList items => exact hitems items h
  | numberedList items => exact hitems items h
  | table rows =>
    cases rows with
    | nil => exact absurd rfl h
    | cons row rows => rfl
  | loneRun _ => exact absurd rfl h
  | loneItem _ => exact absurd rfl h
  | loneRow _ => exact absurd rfl h
  | loneCell _ => exact absurd rfl h
  | _ => rfl

/-- The first element with blocks says what kind they are of. -/
theorem Element.findSome?_blocks (es : List Element) :
    (es.findSome? fun e => e.blocks.getLast?) = (es.find? fun e => !e.blocks.isEmpty).map fun e =>
      if e.kind = "table" then "w:tbl" else "w:p" := by
  induction es with
  | nil => rfl
  | cons e es ih =>
    rw [List.findSome?_cons]
    by_cases hblocks : e.blocks = []
    · rw [List.find?_cons_of_neg (by simp [hblocks]), ← ih, hblocks]
      rfl
    · rw [List.find?_cons_of_pos (by simp [hblocks]), getLast?_blocks hblocks]
      rfl

/-- There is always a last block, and it is a table or a paragraph. -/
theorem Cell.getLast?_blocks (c : Cell) :
    c.blocks.getLast? = some (if c.endsWithTable then "w:tbl" else "w:p") := by
  -- the last block is looked for from the end, element by element
  have hlast : (c.content.flatMap Element.blocks).getLast?
      = (c.content.filter fun e => !e.blocks.isEmpty).getLast?.map fun e =>
          if e.kind = "table" then "w:tbl" else "w:p" := by
    rw [List.getLast?_flatMap, Element.findSome?_blocks, List.getLast?_filter]
  unfold blocks endsWithTable
  cases hwritten : (c.content.filter fun e => !e.blocks.isEmpty).getLast? with
  | none =>
    rw [List.getLast?_eq_none_iff, List.filter_eq_nil_iff] at hwritten
    rw [if_pos (List.all_eq_true.mpr fun e he => by simpa using hwritten e he)]
    rfl
  | some e =>
    have he := List.mem_filter.mp (List.mem_of_getLast? hwritten)
    have hall : ¬ (c.content.all fun e => e.blocks.isEmpty) = true := by
      intro hall
      simp [List.all_eq_true.mp hall e he.1] at he
    rw [if_neg hall, hlast, hwritten, Option.map_some, Option.any_some]
    simp only [decide_eq_true_eq]

/-! ## The cells in the body

Under a row a reader finds the cells of the row and, between them, those of the tables in them. This is
the order of `Element.gridCells`. -/

/-- The last of some elements has the last of their tags. -/
theorem Xml.HaveTags.exists_getLast? {xs : List Xml} {tags : List String} {tag : String}
    (h : HaveTags xs tags) (hlast : tags.getLast? = some tag) :
    ∃ x, xs.getLast? = some x ∧ x.hasTag tag = true := by
  have hreverse := List.rel_reverse h
  rw [List.getLast?_eq_head?_reverse] at hlast
  simp only [List.getLast?_eq_head?_reverse]
  generalize xs.reverse = xs, tags.reverse = tags at hreverse hlast
  cases hreverse with
  | nil => cases hlast
  | cons hx _ =>
    cases hlast
    exact ⟨_, rfl, hx⟩

/-- A cell ends as its last block says. -/
theorem Xml.IsCell.of_blocks {x : Xml} {c : Cell}
    (h : HaveTags x.content ("w:tcPr" :: c.blocks)) : IsCell x c where
  blocks := h
  last := by
    apply h.exists_getLast?
    have hlast := c.getLast?_blocks
    rw [List.getLast?_cons, hlast]
    rfl

namespace Markup

/-- A cell as an element: its properties and its content, or an empty paragraph. -/
def cellNode (columnWidth : Int) (content : List Markup) : Xml :=
  node "w:tc" [] (.element "w:tcPr" [] [width "w:tcW" columnWidth] ::
    if content.isEmpty then [.empty "w:p" []] else content)

/-- Under a cell there is the cell itself, and then the cells in its content. -/
theorem find_cell_tableCell (columnWidth : Int) (content : List Markup) :
    find "w:tc" [tableCell columnWidth content]
      = cellNode columnWidth content :: find "w:tc" content := by
  unfold tableCell
  rw [find_element_self, find_cons, find_element_of_ne (by decide), width,
    find_empty_of_ne (by decide), List.nil_append]
  cases content with
  | nil =>
    rw [List.isEmpty_nil, if_pos rfl, find_empty_of_ne (by decide)]
    rfl
  | cons m ms => rfl

/-- Under a row there are its cells, and then those that fill it up. -/
theorem find_cell_tableRow (count : Nat) (columnWidth : Int) (row : RowMarkup) :
    find "w:tc" [tableRow count columnWidth row] =
      (row.cells.flatMap fun content => find "w:tc" [tableCell columnWidth content]) ++
        (List.replicate (count - row.cells.length) []).flatMap fun content =>
          find "w:tc" [tableCell columnWidth content] := by
  -- the mark of a header row holds no cell
  have hheader : AllEverywhere (fun tag _ => tag ≠ "w:tc")
      (if row.header then [.element "w:trPr" [] [.empty "w:tblHeader" []]] else []) :=
    allEverywhere_if (by simp)
  unfold tableRow
  rw [find_element_of_ne (by decide), find_append, hheader.find_eq_nil fun _ hne => hne rfl,
    List.nil_append, find_map, List.flatMap_append]

/-- A cell is written with the blocks of its elements. -/
theorem isCell_cellNode (p : BodyPolicy) (cell : Option Text) (next : Nat) (columnWidth : Int)
    (content : List Element) :
    IsCell (cellNode columnWidth (Element.allMarkup p cell next content)) ⟨content⟩ := by
  refine .of_blocks (.cons (hasTag_self "w:tcPr" _ _) ?_)
  unfold Cell.blocks Cell.content
  rw [isEmpty_allMarkup p cell next content]
  by_cases hempty : content.all fun e => e.blocks.isEmpty
  · rw [if_pos hempty, if_pos hempty]
    show HaveTags [node "w:p" [] []] ["w:p"]
    exact haveTags_singleton "w:p" _ _
  · rw [if_neg hempty, if_neg hempty]
    exact haveTags_allMarkup p cell next content

/-- The cells that fill up a row are cells without elements. -/
theorem isCell_padding (p : BodyPolicy) (columnWidth : Int) (n : Nat) :
    List.Forall₂ IsCell
      ((List.replicate n []).flatMap fun content => find "w:tc" [tableCell columnWidth content])
      (List.replicate n ⟨[]⟩) := by
  induction n with
  | zero => exact .nil
  | succ n ih =>
    rw [List.replicate_succ, List.replicate_succ, List.flatMap_cons, find_cell_tableCell]
    exact .cons (isCell_cellNode p none 1 columnWidth []) ih

end Markup

/-! The walk of the writer, one lemma for each of its functions. -/

/-- Each cell of a row has content of its own, be it empty. -/
theorem Cell.length_allMarkup (p : BodyPolicy) (style : Text) (next : Nat) (cells : List Cell) :
    (Cell.allMarkup p style next cells).length = cells.length := by
  induction cells generalizing next with
  | nil => rfl
  | cons cell cells ih =>
    obtain ⟨content⟩ := cell
    rw [Cell.allMarkup, List.length_cons, List.length_cons, ih]

mutual

/-- Only tables have cells. -/
theorem areCells_element (p : BodyPolicy) (cell : Option Text) (next : Nat) (e : Element) :
    List.Forall₂ IsCell (find "w:tc" (e.markup p cell next)) e.gridCells := by
  cases e with
  | table rows =>
    cases rows with
    | nil => exact .nil
    | cons row rows =>
      obtain ⟨cells, header⟩ := row
      rw [Element.markup, Element.gridCells, Row.allMarkup]
      -- a table with rows: its cells are in the rows, and nothing else in it has any
      obtain ⟨columnWidth, htable⟩ := exists_table_eq p.contentWidth
        ⟨header, Cell.allMarkup p (cellStyle header) next cells⟩
        (Row.allMarkup p (next + Cell.imageCounts cells) rows)
      rw [htable, find_tbl_content (by decide), Cell.length_allMarkup]
      exact areCells_rows p next (max cells.length 1) columnWidth (⟨cells, header⟩ :: rows)
  | _ =>
    rw [find_markup_eq_nil (by decide) p cell next (by simp [Element.kind])]
    exact .nil

/-- The rows of a table, each of them filled up to the same number. -/
theorem areCells_rows (p : BodyPolicy) (next count : Nat) (columnWidth : Int) (rows : List Row) :
    List.Forall₂ IsCell
      ((Row.allMarkup p next rows).flatMap fun row => find "w:tc" [tableRow count columnWidth row])
      (Row.allGridCells count rows) := by
  cases rows with
  | nil => exact .nil
  | cons row rows =>
    obtain ⟨cells, header⟩ := row
    rw [Row.allMarkup, Row.allGridCells, List.flatMap_cons, find_cell_tableRow,
      Cell.length_allMarkup, List.append_assoc]
    exact List.rel_append (areCells_cells p _ next columnWidth cells)
      (List.rel_append (isCell_padding p columnWidth _) (areCells_rows p _ count columnWidth rows))

/-- The cells of a row, each with those in it. -/
theorem areCells_cells (p : BodyPolicy) (style : Text) (next : Nat) (columnWidth : Int)
    (cells : List Cell) :
    List.Forall₂ IsCell
      ((Cell.allMarkup p style next cells).flatMap fun content =>
        find "w:tc" [tableCell columnWidth content])
      (Cell.allGridCells cells) := by
  cases cells with
  | nil => exact .nil
  | cons cell cells =>
    obtain ⟨content⟩ := cell
    rw [Cell.allMarkup, Cell.allGridCells, List.flatMap_cons, find_cell_tableCell]
    exact .cons (isCell_cellNode p (some style) next columnWidth content)
      (List.rel_append (areCells_elements p (some style) next content)
        (areCells_cells p style _ columnWidth cells))

/-- A sequence of elements. -/
theorem areCells_elements (p : BodyPolicy) (cell : Option Text) (next : Nat) (es : List Element) :
    List.Forall₂ IsCell (find "w:tc" (Element.allMarkup p cell next es))
      (Element.allGridCells es) := by
  cases es with
  | nil => exact .nil
  | cons e es =>
    rw [Element.allMarkup, Element.allGridCells, find_append]
    exact List.rel_append (areCells_element p cell next e) (areCells_elements p cell _ es)

end

/-- In the document part of every document there are the cells of its tables, in reading order. Each
begins with its properties and has a block after them, and its last block is a paragraph unless the
last of its elements that are written is a table. -/
theorem Style.cells_partText (s : Style) (es : List Element)
    (hcolor : ∀ c ∈ s.linkColor, c ≠ '<' ∧ c ≠ '&' ∧ c ≠ '"') :
    ∃ root, Xml.read? (s.partText es .document) = some root ∧
      List.Forall₂ IsCell (root.tagged "w:tc") (Element.allGridCells es) := by
  obtain ⟨root, hroot, htagged⟩ := s.exists_read?_document es hcolor
  refine ⟨root, hroot, ?_⟩
  rw [htagged, find_documentMarkup_of_ne (by decide)]
  exact areCells_elements _ none 1 es

/-- A cell that ends with a table whose only cell is empty, a cell with a table without rows at its
end, and a row that is filled up. -/
def nestedTables : List Element :=
  [.table
    [⟨[⟨[.paragraph [{ text := "a" }], .table [⟨[⟨[]⟩], false⟩]]⟩,
        ⟨[.bulletList [{ runs := [{ text := "b" }] }], .table []]⟩], true⟩,
      ⟨[⟨[.table []]⟩], false⟩]]

/-- The first cell is the only one that ends with a table; a table without rows is not written. -/
theorem Style.cells_partText_nestedTables :
    let s : Style := {}
    (∀ c ∈ s.linkColor, c ≠ '<' ∧ c ≠ '&' ∧ c ≠ '"') ∧
      ∃ root, Xml.read? (s.partText nestedTables .document) = some root ∧
        List.Forall₂ IsCell (root.tagged "w:tc") (Element.allGridCells nestedTables) ∧
        (Element.allGridCells nestedTables).map (fun c => (c.blocks, c.endsWithTable)) =
          [(["w:p", "w:tbl"], true), (["w:p"], false), (["w:p"], false), (["w:p"], false),
            (["w:p"], false)] := by
  intro s
  have hcolor : ∀ c ∈ s.linkColor, c ≠ '<' ∧ c ≠ '&' ∧ c ≠ '"' := by decide
  obtain ⟨root, hroot, hcells⟩ := s.cells_partText nestedTables hcolor
  exact ⟨hcolor, root, hroot, hcells, by rfl⟩

end Wordsmith
