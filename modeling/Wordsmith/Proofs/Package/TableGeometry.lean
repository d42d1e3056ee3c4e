import Wordsmith.Proofs.Package.Cells

/-!
# The geometry of tables

All widths in a table agree: its columns and its cells are equally wide, and the table is as wide as
its columns together. There is a column for each cell of the first row, and every row has a cell for
each column at least. The columns share the width between the margins, rounded down; if nothing is
left for them that way, they get a width of their own (`Style.grids_partText`).

* `Xml.along` — the elements that a path of tags leads to, child by child.
* `Xml.IsGrid` — a table as it is read, with the widths and the numbers of cells that it should
  have.
* `IsShare` — what the width of one of so many columns has to be.
-/

namespace Wordsmith

open Xml Markup

/-! ## Tables as they are read

Widths are read along paths of tags. In a table that has tables in its cells, `along` keeps to the
outer one, where `tagged` would find the columns of all of them. -/

namespace Xml

/-- The elements below an element that a path of tags leads to. What stands in a nested table is on
another path. -/
def along : List String → Xml → List Xml
  | [], x => [x]
  | tag :: path, x => (x.content.filter (hasTag tag)).flatMap (along path)

/-- The width of an element, absent if it has none or if it is no number. -/
def width? (x : Xml) : Option Int := (x.attribute? "w:w").bind Text.toInt?

/-- The widths of the elements that a path leads to. -/
def widths (path : List String) (x : Xml) : List (Option Int) := (x.along path).map width?

/-- A table with so many columns of this width: it is as wide as its columns together, and each of
the rows has cells of this width, one for each of its own cells and for each column. -/
structure IsGrid (count : Nat) (columnWidth : Int) (rows : List Row) (x : Xml) : Prop where
  columns : x.widths ["w:tblGrid", "w:gridCol"] = List.replicate count (some columnWidth)
  total : x.widths ["w:tblPr", "w:tblW"]
    = [some ((List.replicate count columnWidth).foldr (· + ·) 0)]
  cells : (x.along ["w:tr"]).map (fun row => (row.along ["w:tc"]).map (widths ["w:tcPr", "w:tcW"]))
    = rows.map fun row => List.replicate (max count row.cells.length) [some columnWidth]

end Xml

/-- The width of a column if `count` columns share this width between the margins: as much as there
is for each of them, or else a fixed width. -/
structure IsShare (contentWidth : Int) (count : Nat) (columnWidth : Int) : Prop where
  positive : 0 < columnWidth
  shared : count ≤ contentWidth →
    count * columnWidth ≤ contentWidth ∧ contentWidth < count * (columnWidth + 1)
  fixed : contentWidth < count → columnWidth = 2000

/-- A table as it should be written for these rows, if there is so much between the margins. -/
def Xml.IsTableOf (contentWidth : Int) (x : Xml) (rows : List Row) : Prop :=
  ∃ columnWidth, IsShare contentWidth (max (columnCount rows) 1) columnWidth ∧
    x.IsGrid (max (columnCount rows) 1) columnWidth rows

mutual

/-- The tables with rows in an element, in reading order. A table comes before those in it. -/
def Element.tables : Element → List (List Row)
  | .table [] => []
  | .table (row :: rows) => (row :: rows) :: Row.allTables (row :: rows)
  | _ => []

/-- The tables in the cells of rows. -/
def Row.allTables : List Row → List (List Row)
  | [] => []
  | ⟨cells, _⟩ :: rows => Cell.allTables cells ++ Row.allTables rows

/-- The tables in cells. -/
def Cell.allTables : List Cell → List (List Row)
  | [] => []
  | ⟨content⟩ :: cells => Element.allTables content ++ Cell.allTables cells

/-- The tables among elements. -/
def Element.allTables : List Element → List (List Row)
  | [] => []
  | e :: es => e.tables ++ Element.allTables es

end

/-! ## The width of a column

The width is the quotient if that is positive, and a fixed width otherwise. It is positive exactly if
there is a unit for each column. -/

/-- Dividing rounds down, also where there is less than nothing between the margins. -/
theorem isShare_columnWidth (contentWidth : Int) {count : Nat} (hcount : 0 < count) :
    IsShare contentWidth count (columnWidth contentWidth count) := by
  have hpos : (0 : Int) < count := by omega
  have hfloor : contentWidth.fdiv count = contentWidth / count :=
    Int.fdiv_eq_ediv_of_nonneg contentWidth (Int.le_of_lt hpos)
  -- when the quotient is positive
  have hfits : 0 < contentWidth / count ↔ (count : Int) ≤ contentWidth := by
    rw [← Int.add_one_le_iff, Int.zero_add, Int.le_ediv_iff_mul_le hpos, Int.one_mul]
  unfold columnWidth
  simp only [if_neg (Int.not_le.mpr hpos), hfloor]
  by_cases h : (count : Int) ≤ contentWidth
  · rw [if_pos (hfits.mpr h)]
    have hrounded := Int.mul_ediv_add_emod contentWidth count
    have hrest := Int.emod_nonneg contentWidth (Int.ne_of_gt hpos)
    have hless := Int.emod_lt_of_pos contentWidth hpos
    refine ⟨hfits.mpr h, fun _ => ⟨by omega, ?_⟩, fun hlt => absurd h (Int.not_le.mpr hlt)⟩
    rw [Int.mul_add, Int.mul_one]
    omega
  · rw [if_neg (hfits.not.mpr h)]
    exact ⟨by decide, fun hle => absurd hle h, fun _ => rfl⟩

/-! ## Paths in what is written

A step of a path takes the children with a tag, which are those that `pickAll` computes. -/

namespace Markup

/-- The first step of a path. -/
theorem along_node (t : String) (attributes : List Attribute) (ms : List Markup) (tag : String)
    (path : List String) :
    (node t attributes ms).along (tag :: path) = (pickAll tag ms).flatMap (along path) :=
  rfl

/-- A path of one tag leads to the children. -/
theorem along_node_singleton (t : String) (attributes : List Attribute) (ms : List Markup)
    (tag : String) : (node t attributes ms).along [tag] = pickAll tag ms := by
  rw [along_node]
  exact List.flatMap_singleton' _

/-- A width is read as it is written. -/
@[simp] theorem width?_node (tag : String) (n : Int) (attributes : List Attribute) :
    (node tag (.int "w:w" n :: attributes) []).width? = some n := by
  simp [width?, Attribute.int]

end Markup

/-! ## Rows and columns

The three fields of `Xml.IsGrid`: the columns and the width of the table stand in front of the rows,
the widths of the cells in each of the rows. -/

/-- A tag that none of the elements has is not found. -/
theorem Xml.HaveTags.filter_eq_nil {xs : List Xml} {tags : List String} (h : HaveTags xs tags)
    {tag : String} (htag : tag ∉ tags) : xs.filter (hasTag tag) = [] := by
  induction h with
  | nil => rfl
  | cons hx _ ih =>
    rw [List.mem_cons, not_or] at htag
    rw [List.filter_cons_of_neg fun hself => htag.1 (eq_of_hasTag hself hx), ih htag.2]

/-- No block of an element has the tag of the properties of a cell. -/
theorem Element.not_mem_blocks (e : Element) : "w:tcPr" ∉ e.blocks := by
  cases e with
  | table rows => cases rows <;> simp [blocks]
  | _ => simp [blocks]

namespace Markup

/-- A cell has the width of its column, whatever its content is. -/
theorem widths_cellNode (p : BodyPolicy) (style : Option Text) (next : Nat) (columnWidth : Int)
    (content : List Element) :
    (cellNode columnWidth (Element.allMarkup p style next content)).widths ["w:tcPr", "w:tcW"]
      = [some columnWidth] := by
  -- the content of the cell cannot be taken for its properties
  have hproperties : "w:tcPr" ∉ Cell.blocks ⟨content⟩ := by
    unfold Cell.blocks
    split
    · decide
    · rw [List.mem_flatMap]
      exact fun ⟨e, _, hmem⟩ => e.not_mem_blocks hmem
  have hblocks := (isCell_cellNode p style next columnWidth content).blocks
  have hrest : pickAll "w:tcPr"
      (if (Element.allMarkup p style next content).isEmpty then [.empty "w:p" []]
        else Element.allMarkup p style next content) = [] :=
    HaveTags.filter_eq_nil (List.forall₂_cons.mp hblocks).2 hproperties
  unfold widths cellNode
  rw [along_node, pickAll_element, if_pos rfl, hrest, List.flatMap_singleton, along_node_singleton]
  simp [width]

/-- A row, filled up, as an element. -/
def rowNode (count : Nat) (columnWidth : Int) (row : RowMarkup) : Xml :=
  node "w:tr" []
    ((if row.header then [.element "w:trPr" [] [.empty "w:tblHeader" []]] else []) ++
      (row.cells ++ List.replicate (count - row.cells.length) []).map (tableCell columnWidth))

/-- The cells of a row are its own and those that fill it up. -/
theorem along_rowNode (count : Nat) (columnWidth : Int) (row : RowMarkup) :
    (rowNode count columnWidth row).along ["w:tc"]
      = (row.cells ++ List.replicate (count - row.cells.length) []).map (cellNode columnWidth) := by
  have hheader : pickAll "w:tc"
      (if row.header then [.element "w:trPr" [] [.empty "w:tblHeader" []]] else []) = [] := by
    split <;> simp
  unfold rowNode
  rw [along_node_singleton, pickAll_append, hheader, List.nil_append,
    pickAll_map (g := cellNode columnWidth) (fun _ => rfl) fun _ => hasTag_self "w:tc" _ _,
    if_pos rfl]

/-- Each cell of a row holds what is written for some elements. -/
theorem exists_eq_of_mem_cells {p : BodyPolicy} {style : Text} {next : Nat} {cells : List Cell}
    {content : List Markup} (h : content ∈ Cell.allMarkup p style next cells) :
    ∃ next es, content = Element.allMarkup p (some style) next es := by
  induction cells generalizing next with
  | nil => exact absurd h List.not_mem_nil
  | cons cell cells ih =>
    obtain ⟨es⟩ := cell
    rcases List.mem_cons.mp h with rfl | hmem
    · exact ⟨next, es, rfl⟩
    · exact ih hmem

/-- All cells of a row are as wide as the columns, and there are as many as columns or more. -/
theorem widths_rowNode (p : BodyPolicy) (style : Text) (next count : Nat) (columnWidth : Int)
    (header : Bool) (cells : List Cell) :
    ((rowNode count columnWidth ⟨header, Cell.allMarkup p style next cells⟩).along ["w:tc"]).map
        (widths ["w:tcPr", "w:tcW"])
      = List.replicate (max count cells.length) [some columnWidth] := by
  rw [along_rowNode, List.map_map, List.eq_replicate_iff]
  constructor
  · rw [List.length_map, List.length_append, List.length_replicate, Cell.length_allMarkup]
    omega
  · intro ws hws
    obtain ⟨content, hcontent, rfl⟩ := List.mem_map.mp hws
    -- a cell of the row, or one that fills it up
    rcases List.mem_append.mp hcontent with hcell | hpadding
    · obtain ⟨n, es, rfl⟩ := exists_eq_of_mem_cells hcell
      exact widths_cellNode p (some style) n columnWidth es
    · rw [List.eq_of_mem_replicate hpadding]
      exact widths_cellNode p (some style) next columnWidth []

/-- The same of all rows of a table. -/
theorem widths_rows (p : BodyPolicy) (next count : Nat) (columnWidth : Int) (rows : List Row) :
    ((Row.allMarkup p next rows).map (rowNode count columnWidth)).map
        (fun row => (row.along ["w:tc"]).map (widths ["w:tcPr", "w:tcW"]))
      = rows.map fun row => List.replicate (max count row.cells.length) [some columnWidth] := by
  induction rows generalizing next with
  | nil => rfl
  | cons row rows ih =>
    obtain ⟨cells, header⟩ := row
    rw [Row.allMarkup, List.map_cons, List.map_cons, widths_rowNode, ih, List.map_cons]
    rfl

/-- Equal columns are together as wide as one of them times their number. -/
theorem foldr_add_replicate (count : Nat) (columnWidth : Int) :
    (List.replicate count columnWidth).foldr (· + ·) 0 = columnWidth * count := by
  induction count with
  | zero => exact (Int.mul_zero columnWidth).symm
  | succ n ih =>
    rw [List.replicate_succ, List.foldr_cons, ih, Int.natCast_add, Int.mul_add, Int.add_comm,
      Int.natCast_one, Int.mul_one]

/-- What stands in front of the rows and the rows are told apart by their tags. -/
theorem isGrid_table (p : BodyPolicy) (next count : Nat) (columnWidth : Int) (rows : List Row) :
    IsGrid count columnWidth rows
      (node "w:tbl" []
        (tableHead count columnWidth ++
          (Row.allMarkup p next rows).map (tableRow count columnWidth))) := by
  -- rows are all that stands behind the head
  have hrows : ∀ tag, pickAll tag ((Row.allMarkup p next rows).map (tableRow count columnWidth))
      = if "w:tr" = tag then (Row.allMarkup p next rows).map (rowNode count columnWidth) else [] :=
    fun tag => pickAll_map (g := rowNode count columnWidth) (fun _ => rfl)
      (fun _ => hasTag_self "w:tr" _ _) _
  constructor
  · unfold widths
    rw [along_node, pickAll_append, hrows]
    simp [tableHead, along_node_singleton, pickAll_replicate]
  · unfold widths
    rw [along_node, pickAll_append, hrows, foldr_add_replicate]
    simp [tableHead, along_node_singleton, value, width]
  · rw [along_node_singleton, pickAll_append, hrows, if_pos rfl, ← widths_rows p next]
    simp [tableHead]

end Markup

/-! ## The tables in the body

A table in a cell is written like any other, with the width between the margins of the page and not
that of the cell. So the same width holds all the way down. -/

/-- A table is written with a column for each cell of its first row, but with one at least. -/
theorem table_allMarkup (p : BodyPolicy) (next : Nat) (row : Row) (rows : List Row) :
    let count := max (columnCount (row :: rows)) 1
    let columnWidth := columnWidth p.contentWidth count
    table p.contentWidth (Row.allMarkup p next (row :: rows)) =
      [.element "w:tbl" []
        (tableHead count columnWidth ++
          (Row.allMarkup p next (row :: rows)).map (tableRow count columnWidth))] := by
  obtain ⟨cells, header⟩ := row
  have hcount : columnCount (⟨cells, header⟩ :: rows)
      = (Cell.allMarkup p (cellStyle header) next cells).length :=
    (Cell.length_allMarkup p _ next cells).symm
  rw [Row.allMarkup, hcount]
  rfl

/-- In a table there are the tables of its cells. -/
theorem find_table_self (count : Nat) (columnWidth : Int) (rows : List RowMarkup) :
    let content := tableHead count columnWidth ++ rows.map (tableRow count columnWidth)
    find "w:tbl" [.element "w:tbl" [] content]
      = node "w:tbl" [] content :: rows.flatMap fun row => row.cells.flatMap (find "w:tbl") := by
  intro content
  rw [find_element_self, find_append,
    (everywhere_tableHead count columnWidth).find_eq_nil fun _ => by decide, List.nil_append,
    find_map]
  simp only [find_tableRow (show ∀ t ∈ rowFrameTags, t ≠ "w:tbl" by decide)]
  rfl

/-! The walk of the writer, one lemma for each of its functions. -/

mutual

/-- Only a table with rows is written as one. -/
theorem areTables_element (p : BodyPolicy) (cell : Option Text) (next : Nat) (e : Element) :
    List.Forall₂ (IsTableOf p.contentWidth) (find "w:tbl" (e.markup p cell next)) e.tables := by
  cases e with
  | table rows =>
    cases rows with
    | nil => exact .nil
    | cons row rows =>
      rw [Element.markup, table_allMarkup, find_table_self]
      exact .cons ⟨_, isShare_columnWidth p.contentWidth (by omega), isGrid_table p next _ _ _⟩
        (areTables_rows p next (row :: rows))
  | _ =>
    rw [find_markup_eq_nil (by decide) p cell next (by simp [Element.kind])]
    exact .nil

/-- The tables in the rows of a table. -/
theorem areTables_rows (p : BodyPolicy) (next : Nat) (rows : List Row) :
    List.Forall₂ (IsTableOf p.contentWidth)
      ((Row.allMarkup p next rows).flatMap fun row => row.cells.flatMap (find "w:tbl"))
      (Row.allTables rows) := by
  cases rows with
  | nil => exact .nil
  | cons row rows =>
    obtain ⟨cells, header⟩ := row
    rw [Row.allMarkup, Row.allTables, List.flatMap_cons]
    exact List.rel_append (areTables_cells p (cellStyle header) next cells)
      (areTables_rows p _ rows)

/-- The tables in the cells of a row. -/
theorem areTables_cells (p : BodyPolicy) (style : Text) (next : Nat) (cells : List Cell) :
    List.Forall₂ (IsTableOf p.contentWidth)
      ((Cell.allMarkup p style next cells).flatMap (find "w:tbl")) (Cell.allTables cells) := by
  cases cells with
  | nil => exact .nil
  | cons cell cells =>
    obtain ⟨content⟩ := cell
    rw [Cell.allMarkup, Cell.allTables, List.flatMap_cons]
    exact List.rel_append (areTables_elements p (some style) next content)
      (areTables_cells p style _ cells)

/-- A sequence of elements. -/
theorem areTables_elements (p : BodyPolicy) (cell : Option Text) (next : Nat)
    (es : List Element) :
    List.Forall₂ (IsTableOf p.contentWidth) (find "w:tbl" (Element.allMarkup p cell next es))
      (Element.allTables es) := by
  cases es with
  | nil => exact .nil
  | cons e es =>
    rw [Element.allMarkup, Element.allTables, find_append]
    exact List.rel_append (areTables_element p cell next e) (areTables_elements p cell _ es)

end

/-- In the document part of every document there are its tables that have rows, those in the cells
of others included, in reading order. In each of them all widths agree, and with the width between
the margins, which may be too little for the columns; and every row has a cell for each column. -/
theorem Style.grids_partText (s : Style) (es : List Element)
    (hcolor : ∀ c ∈ s.linkColor, c ≠ '<' ∧ c ≠ '&' ∧ c ≠ '"') :
    ∃ root, Xml.read? (s.partText es .document) = some root ∧
      List.Forall₂ (IsTableOf s.contentWidth) (root.tagged "w:tbl") (Element.allTables es) := by
  obtain ⟨root, hroot, htagged⟩ := s.exists_read?_document es hcolor
  refine ⟨root, hroot, ?_⟩
  rw [htagged, find_documentMarkup_of_ne (by decide)]
  exact areTables_elements (s.bodyPolicy (Element.allLinks es)) none 1 es

/-- Three columns, and a row that is filled up. -/
def threeColumns : List Row := [⟨[⟨[]⟩, ⟨[]⟩, ⟨[]⟩], false⟩, ⟨[⟨[]⟩], true⟩]

/-- A table whose first row has no cells; a table in it is wider than the page below. -/
def crampedRows : List Row :=
  [⟨[], true⟩, ⟨[⟨[.paragraph [{ text := "a" }], .table threeColumns]⟩, ⟨[.table []]⟩], false⟩]

/-- Where there is room for two units, one column gets both of them, and three get a fixed width. -/
theorem Style.grids_partText_crampedRows :
    let s : Style := { pageSize := { width := 10 }, pageMargins := { left := 5, right := 3 } }
    (∀ c ∈ s.linkColor, c ≠ '<' ∧ c ≠ '&' ∧ c ≠ '"') ∧
      ∃ root outer inner, Xml.read? (s.partText [.table crampedRows] .document) = some root ∧
        root.tagged "w:tbl" = [outer, inner] ∧
        outer.IsGrid 1 2 crampedRows ∧ inner.IsGrid 3 2000 threeColumns := by
  intro s
  have hcolor : ∀ c ∈ s.linkColor, c ≠ '<' ∧ c ≠ '&' ∧ c ≠ '"' := by decide
  obtain ⟨root, hroot, htables⟩ := s.grids_partText [.table crampedRows] hcolor
  have hall : Element.allTables [.table crampedRows] = [crampedRows, threeColumns] := rfl
  rw [hall, List.forall₂_cons_right_iff] at htables
  obtain ⟨outer, others, ⟨w, hshare, houter⟩, hothers, htagged⟩ := htables
  rw [List.forall₂_cons_right_iff] at hothers
  obtain ⟨inner, beyond, ⟨w', hshare', hinner⟩, hbeyond, rfl⟩ := hothers
  rw [List.forall₂_nil_right_iff] at hbeyond
  -- the width of one column is all there is, that of three is fixed
  have hw : w = 2 := by
    have hshared := hshare.shared (by decide)
    have hcount : max (columnCount crampedRows) 1 = 1 := rfl
    have hwidth : s.contentWidth = 2 := rfl
    rw [hcount, hwidth] at hshared
    omega
  have hw' : w' = 2000 := hshare'.fixed (by decide)
  subst hw hw' hbeyond
  exact ⟨hcolor, root, outer, inner, hroot, htagged, houter, hinner⟩

end Wordsmith
