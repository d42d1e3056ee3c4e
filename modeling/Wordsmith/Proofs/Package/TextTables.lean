import Wordsmith.Proofs.Package.Cells
import Wordsmith.Proofs.Package.Headings
import Wordsmith.Proofs.Token.Tables

/-!
# Tables of text

A table token comes through to the document part as a table of the same shape: a column for each
cell of its head, a row for each of its rows, and a cell for each of their cells, with one paragraph
that has the runs of the inline tokens in it. Shorter rows are filled up with empty cells, longer
ones stay as they are, and the row of the head alone is marked as a header
(`Style.table_partText`).

The relation is stated three times, once for each form of the table, and each form is derived from the
one before:

* `Row.IsOf` — a row of the tree, for the tokens of its cells (`Node.exists_table`).
* `RowMarkup.IsOf` — a row of markup: each cell holds one paragraph with the runs (`IsContentOf`).
* `Xml.IsTextRow` — a row as it is read in the part, filled up with empty cells.
-/

namespace Wordsmith

open Datum Xml Markup

/-! ## Text tables as they are read

What a reader sees of a table of text. A row counts its cells, and tells the filled ones, which hold
one paragraph with runs (`IsTextParagraph`), from those that pad it (`IsEmptyParagraph`). -/

namespace Xml

/-- A paragraph with this style and these runs, and nothing else. -/
structure IsTextParagraph (p : LinkPolicy) (style : Text) (runs : List Run) (x : Xml) : Prop where
  tag : x.hasTag "w:p" = true
  style : x.paragraphStyle? = some style
  content : ∃ properties, properties.hasTag "w:pPr" = true ∧
    x.content = properties :: viewAll (Run.allMarkup p runs)

/-- A paragraph without anything in it. -/
structure IsEmptyParagraph (x : Xml) : Prop where
  tag : x.hasTag "w:p" = true
  content : x.content = []

/-- There are properties of a cell in the element, and one block that satisfies `P`. -/
def HoldsOne (P : Xml → Prop) (x : Xml) : Prop :=
  ∃ properties block, x.content = [properties, block] ∧ properties.hasTag "w:tcPr" = true ∧ P block

/-- A row of a table with so many columns: a cell for each of these sequences of inline tokens, with
its runs in a paragraph, and empty cells after them. -/
structure IsTextRow (p : LinkPolicy) (columns : Nat) (header : Bool) (x : Xml)
    (cells : List (List Datum)) : Prop where
  marked : (x.tagged "w:tblHeader").length = if header then 1 else 0
  count : (x.tagged "w:tc").length = max cells.length columns
  cells : ∃ filled padding, x.tagged "w:tc" = filled ++ padding ∧
    List.Forall₂
      (fun y ds => ∃ nodes, Node.ofTokens ds = .ok nodes ∧
        y.HoldsOne (IsTextParagraph p (cellStyle header) (Node.allRuns nodes))) filled cells ∧
    ∀ y ∈ padding, y.HoldsOne IsEmptyParagraph

end Xml

/-! ## Text tables as they are written

The content of the cells is made of paragraphs only (`OnlyParagraphs`). So whatever table tags a reader
finds under a row are those of the row itself, and looking for rows and cells does not go astray in
what the cells hold. -/

namespace Markup

/-- The tags of cells, around their content. -/
def cellTags : List String := ["w:tc", "w:tcPr", "w:tcW"]

/-- The tags in a row, around the content of its cells. -/
def rowTags : List String := ["w:trPr", "w:tblHeader"] ++ cellTags

section Rows

variable (count : Nat) (columnWidth : Int) {row : RowMarkup}
  (h : ∀ content ∈ row.cells, OnlyParagraphs content)

include h

/-- The cells that pad a row are empty, so they hold nothing but paragraphs either. -/
theorem onlyParagraphs_padded :
    ∀ content ∈ row.cells ++ List.replicate (count - row.cells.length) [],
      OnlyParagraphs content := by
  refine List.forall_mem_append.mpr ⟨h, fun content hcontent => ?_⟩
  rw [List.eq_of_mem_replicate hcontent]
  exact allEverywhere_nil

/-- The cells of a row have the tags of cells and of paragraphs, and no others. -/
theorem everywhere_cells :
    AllEverywhere (fun tag _ => tag ∈ cellTags ++ paragraphTags)
      ((row.cells ++ List.replicate (count - row.cells.length) []).map
        (tableCell columnWidth)) := by
  refine allEverywhere_map.mpr fun content hcontent => ?_
  refine .element (by decide) (allEverywhere_cons.mpr ⟨by simp [width, cellTags], ?_⟩)
  -- an empty cell is written with an empty paragraph
  split
  · exact (Everywhere.empty (by decide)).singleton
  · exact (onlyParagraphs_padded count h content hcontent).mono fun _ _ htag =>
      List.mem_append_right _ htag

/-- If there are no tables in its cells, the only table tags in a row are its own. -/
theorem exists_tableRow : ∃ content, tableRow count columnWidth row = .element "w:tr" [] content ∧
    AllEverywhere (fun tag _ => tag ∈ rowTags ++ paragraphTags) content := by
  refine ⟨_, rfl, allEverywhere_append.mpr ⟨allEverywhere_if (by simp [rowTags]), ?_⟩⟩
  refine (everywhere_cells count columnWidth h).mono fun tag _ htag => ?_
  rw [rowTags, List.append_assoc]
  exact List.mem_append_right _ htag

/-- No other tag is found in a row. -/
theorem find_tableRow_eq_nil {tag : String} (htag : tag ∉ "w:tr" :: rowTags ++ paragraphTags) :
    find tag [tableRow count columnWidth row] = [] := by
  obtain ⟨content, hrow, hcontent⟩ := exists_tableRow count columnWidth h
  rw [List.cons_append, List.mem_cons, not_or] at htag
  rw [hrow, find_element_of_ne (Ne.symm htag.1), hcontent.find_eq_nil fun _ => htag.2]

/-- A row is found as one element. -/
theorem exists_find_tableRow : ∃ x, find "w:tr" [tableRow count columnWidth row] = [x] ∧
    ∀ tag, x.tagged tag = find tag [tableRow count columnWidth row] := by
  obtain ⟨content, hrow, hcontent⟩ := exists_tableRow count columnWidth h
  -- rows do not nest here, so that the one found is the row itself
  have hinside : find "w:tr" content = [] := hcontent.find_eq_nil fun _ => by decide
  rw [hrow]
  refine ⟨node "w:tr" [] content, ?_, tagged_node _ _ _⟩
  rw [find_element_self, hinside]
  rfl

/-- The row says whether it is a header, and its cells do not. -/
theorem length_find_header : (find "w:tblHeader" [tableRow count columnWidth row]).length
    = if row.header then 1 else 0 := by
  have hcells : find "w:tblHeader"
      ((row.cells ++ List.replicate (count - row.cells.length) []).map (tableCell columnWidth))
        = [] :=
    (everywhere_cells count columnWidth h).find_eq_nil fun _ => by decide
  unfold tableRow
  rw [find_element_of_ne (by decide), find_append, hcells, List.append_nil]
  cases row.header with
  | false => rfl
  | true =>
    rw [if_pos rfl, if_pos rfl, find_element_of_ne (by decide), find_empty_self]
    rfl

/-- The cells that are found in a row are its own and those that pad it, in order. -/
theorem find_cell_tableRow_eq_map : find "w:tc" [tableRow count columnWidth row]
    = (row.cells ++ List.replicate (count - row.cells.length) []).map (cellNode columnWidth) := by
  rw [find_cell_tableRow, ← List.flatMap_append, List.map_eq_flatMap]
  refine List.flatMap_congr fun content hcontent => ?_
  rw [find_cell_tableCell, (onlyParagraphs_padded count h content hcontent).find_eq_nil (by decide)]

end Rows

end Markup

/-- Content of a cell that is written for these inline tokens. -/
def IsContentOf (p : LinkPolicy) (style : Text) (content : List Markup) (ds : List Datum) : Prop :=
  ∃ nodes, Node.ofTokens ds = .ok nodes ∧
    content = [paragraph [styleReference style] (Run.allMarkup p (Node.allRuns nodes))]

/-- A row that is written for cells with these inline tokens. -/
structure RowMarkup.IsOf (p : LinkPolicy) (header : Bool) (row : RowMarkup)
    (cells : List (List Datum)) : Prop where
  marked : row.header = header
  cells : List.Forall₂ (IsContentOf p (cellStyle header)) row.cells cells

/-- Cells of the tree are written as the content of cells, each for its tokens. The number of the next
image changes from cell to cell, and does not matter to runs. -/
theorem Cell.forall₂_allMarkup (p : BodyPolicy) (style : Text) (next : Nat) {cells : List Cell}
    {sources : List (List Datum)} (h : List.Forall₂ Cell.IsOf cells sources) :
    List.Forall₂ (IsContentOf p.links style) (Cell.allMarkup p style next cells) sources := by
  induction h generalizing next with
  | nil => exact .nil
  | cons hcell _ ih =>
    obtain ⟨nodes, hnodes, rfl⟩ := hcell
    exact .cons ⟨nodes, hnodes, rfl⟩ (ih _)

/-- A row of the tree is written as a row of markup for the same tokens. -/
theorem Row.IsOf.markup {header : Bool} {row : Row} {cells : List (List Datum)}
    (h : row.IsOf header cells) (p : BodyPolicy) (next : Nat) :
    RowMarkup.IsOf p.links header
      ⟨row.header, Cell.allMarkup p (cellStyle row.header) next row.cells⟩ cells where
  marked := h.header
  cells := by
    rw [h.header]
    exact Cell.forall₂_allMarkup p _ next h.cells

/-- And so are all rows. -/
theorem Row.forall₂_allMarkup (p : BodyPolicy) {header : Bool} (next : Nat) {rows : List Row}
    {sources : List (List (List Datum))} (h : List.Forall₂ (Row.IsOf header) rows sources) :
    List.Forall₂ (RowMarkup.IsOf p.links header) (Row.allMarkup p next rows) sources := by
  induction h generalizing next with
  | nil => exact .nil
  | @cons row cells rows sources hrow _ ih =>
    -- the writer takes the row apart, so it has to be a constructor
    obtain ⟨rowCells, rowHeader⟩ := row
    exact .cons (hrow.markup p next) (ih _)

/-- A paragraph with runs is nothing but a paragraph. -/
theorem IsContentOf.onlyParagraphs {p : LinkPolicy} {style : Text} {content : List Markup}
    {ds : List Datum} (h : IsContentOf p style content ds) : OnlyParagraphs content := by
  obtain ⟨nodes, -, rfl⟩ := h
  exact (onlyParagraphs_value (by decide) style).paragraph (onlyParagraphs_runs p _)

/-- So no cell of such a row has a table in it. -/
theorem RowMarkup.IsOf.onlyParagraphs {p : LinkPolicy} {header : Bool} {row : RowMarkup}
    {cells : List (List Datum)} (h : row.IsOf p header cells) :
    ∀ content ∈ row.cells, OnlyParagraphs content := by
  have hcells : List.Forall₂ (fun content ds => OnlyParagraphs content ∧
      IsContentOf p (cellStyle header) content ds) row.cells cells :=
    h.cells.imp fun content ds hcontent => ⟨hcontent.onlyParagraphs, hcontent⟩
  exact ((List.forall₂_and_left _ _).mp hcells).1

/-! ## From what is written to what is read

Cell by cell, then row by row, and at last the table with its head in front (`exists_textTable`). -/

/-- The content of a cell is a paragraph with the runs. -/
theorem IsContentOf.holdsOne {p : LinkPolicy} {header : Bool} {content : List Markup}
    {ds : List Datum} (h : IsContentOf p (cellStyle header) content ds) (columnWidth : Int) :
    ∃ nodes, Node.ofTokens ds = .ok nodes ∧ (cellNode columnWidth content).HoldsOne
      (IsTextParagraph p (cellStyle header) (Node.allRuns nodes)) := by
  obtain ⟨nodes, hnodes, rfl⟩ := h
  refine ⟨nodes, hnodes, _, _, rfl, hasTag_self "w:tcPr" _ _, hasTag_self "w:p" _ _, ?_,
    _, hasTag_self "w:pPr" _ _, rfl⟩
  -- the names of styles have no references in them, so they are read as they are written
  have hid : (cellStyle header).unescape = cellStyle header :=
    Style.unescape_of_mem_defined _ (cellStyle_mem header)
  show (node "w:p" [] _).paragraphStyle? = _
  simp [paragraphStyle?, childAttribute?, styleReference, hid]

/-- A cell that pads a row is read with an empty paragraph in it. -/
theorem holdsOne_padding (columnWidth : Int) :
    (cellNode columnWidth []).HoldsOne IsEmptyParagraph :=
  ⟨_, _, rfl, hasTag_self "w:tcPr" _ _, hasTag_self "w:p" [] [], rfl⟩

/-- A row for these tokens is found as one row for the same tokens, with empty cells up to the number
of columns. -/
theorem RowMarkup.IsOf.exists_isTextRow {p : LinkPolicy} {header : Bool} {row : RowMarkup}
    {cells : List (List Datum)} (h : row.IsOf p header cells) (count : Nat) (columnWidth : Int) :
    ∃ x, find "w:tr" [tableRow count columnWidth row] = [x] ∧
      IsTextRow p count header x cells := by
  obtain ⟨x, hfind, htagged⟩ := exists_find_tableRow count columnWidth h.onlyParagraphs
  -- the filled cells come first
  have hcells : x.tagged "w:tc" = row.cells.map (cellNode columnWidth) ++
      (List.replicate (count - row.cells.length) []).map (cellNode columnWidth) := by
    rw [htagged, find_cell_tableRow_eq_map count columnWidth h.onlyParagraphs, List.map_append]
  refine ⟨x, hfind, ?_, ?_, _, _, hcells, ?_, ?_⟩
  · rw [htagged, length_find_header count columnWidth h.onlyParagraphs, h.marked]
  · rw [hcells, List.length_append, List.length_map, List.length_map, List.length_replicate,
      h.cells.length_eq]
    omega
  · rw [List.forall₂_map_left_iff]
    exact h.cells.imp fun _ _ hcontent => hcontent.holdsOne columnWidth
  · rw [List.map_replicate]
    intro y hy
    rw [List.eq_of_mem_replicate hy]
    exact holdsOne_padding columnWidth

/-- Each row is found where it was written, so the rows correspond one by one. -/
theorem forall₂_isTextRow {p : LinkPolicy} {header : Bool} {rows : List RowMarkup}
    {sources : List (List (List Datum))}
    (h : List.Forall₂ (RowMarkup.IsOf p header) rows sources) (count : Nat) (columnWidth : Int) :
    List.Forall₂ (IsTextRow p count header)
      (rows.flatMap fun row => find "w:tr" [tableRow count columnWidth row]) sources := by
  induction h with
  | nil => exact .nil
  | cons hrow _ ih =>
    obtain ⟨x, hfind, hx⟩ := hrow.exists_isTextRow count columnWidth
    rw [List.flatMap_cons, hfind]
    exact .cons hx ih

/-- A table with a header row and a body. -/
theorem exists_textTable {p : LinkPolicy} {first : RowMarkup} {rest : List RowMarkup}
    {head : List (List Datum)} {body : List (List (List Datum))} (hfirst : first.IsOf p true head)
    (hne : head ≠ []) (hrest : List.Forall₂ (RowMarkup.IsOf p false) rest body)
    (contentWidth : Int) :
    ∃ tbl top rows, find "w:tbl" (table contentWidth (first :: rest)) = [tbl] ∧
      (tbl.tagged "w:gridCol").length = head.length ∧ tbl.tagged "w:tr" = top :: rows ∧
      IsTextRow p head.length true top head ∧
      List.Forall₂ (IsTextRow p head.length false) rows body := by
  -- the columns are counted by the cells of the head, and there is at least one
  have hcount : max first.cells.length 1 = head.length := by
    rw [hfirst.cells.length_eq]
    exact max_eq_left (List.length_pos_iff.mpr hne)
  obtain ⟨columnWidth, htable⟩ := exists_table_eq contentWidth first rest
  rw [hcount] at htable
  -- there are no tables in any cell, so that nothing is found but the table itself
  have hfree : ∀ row ∈ first :: rest, ∀ content ∈ row.cells, OnlyParagraphs content := by
    have hrows : List.Forall₂ (fun row cells => (∀ content ∈ row.cells, OnlyParagraphs content) ∧
        RowMarkup.IsOf p false row cells) rest body :=
      hrest.imp fun row cells hrow => ⟨hrow.onlyParagraphs, hrow⟩
    exact List.forall_mem_cons.mpr
      ⟨hfirst.onlyParagraphs, ((List.forall₂_and_left _ _).mp hrows).1⟩
  have hnone : ∀ tag ∉ "w:tr" :: rowTags ++ paragraphTags,
      find tag ((first :: rest).map (tableRow head.length columnWidth)) = [] := by
    intro tag htag
    rw [find_map, List.flatMap_eq_nil_iff]
    exact fun row hrow => find_tableRow_eq_nil _ columnWidth (hfree row hrow) htag
  obtain ⟨top, hfind, htop⟩ := hfirst.exists_isTextRow head.length columnWidth
  -- the grid comes before the rows, and each tag is found in one of the two
  let content := tableHead head.length columnWidth ++
    (first :: rest).map (tableRow head.length columnWidth)
  refine ⟨node "w:tbl" [] content, top, _, ?_, ?_, ?_, htop, forall₂_isTextRow hrest _ columnWidth⟩
  · rw [htable, find_element_self, find_append, hnone "w:tbl" (by decide),
      (everywhere_tableHead _ _).find_eq_nil fun _ => by decide]
    rfl
  · rw [tagged_node, find_element_of_ne (by decide), find_append, hnone "w:gridCol" (by decide),
      List.append_nil, find_column_tableHead, List.length_replicate]
  · rw [tagged_node, find_tbl_content (by decide), List.flatMap_cons, hfind]
    rfl

/-- A table with cells in its head and rows of any lengths in its body, all of them with inline
tokens, comes through to the document part: one table, with a column for each cell of the head, and
for each row, the head first, a row with its cells, each with the runs of its tokens in the style of
the head or of the body. Shorter rows end with empty cells, and only the head is marked as such. -/
theorem Style.table_partText (s : Style) {token : Datum} {head : List (List Datum)}
    {body : List (List (List Datum))} (htable : Token.IsTable token head body)
    (hcolor : ∀ c ∈ s.linkColor, c ≠ '<' ∧ c ≠ '&' ∧ c ≠ '"') :
    ∃ tree root tbl top rows, Node.ofDocument (.list [token]) = .ok tree ∧
      Xml.read? (s.partText tree.elements .document) = some root ∧
      let p := s.linkPolicy (Element.allLinks tree.elements)
      root.tagged "w:tbl" = [tbl] ∧ (tbl.tagged "w:gridCol").length = head.length ∧
      tbl.tagged "w:tr" = top :: rows ∧ IsTextRow p head.length true top head ∧
      List.Forall₂ (IsTextRow p head.length false) rows body := by
  -- the head of a table token is not empty
  have hne : head ≠ [] := by
    cases htable
    assumption
  obtain ⟨tree, first, rest, htree, helements, hfirst, hrest⟩ := Node.exists_table htable
  obtain ⟨root, hroot, htagged⟩ := s.exists_read?_document tree.elements hcolor
  let p := s.bodyPolicy (Element.allLinks tree.elements)
  obtain ⟨tbl, top, rows, htbl, hcolumns, htr, htop, hrows⟩ :=
    exists_textTable (hfirst.markup p 1) hne
      (Row.forall₂_allMarkup p (1 + Cell.imageCounts first.cells) hrest) p.contentWidth
  have hmarkup : Element.allMarkup p none 1 tree.elements = table p.contentWidth
      (⟨first.header, Cell.allMarkup p (cellStyle first.header) 1 first.cells⟩ ::
        Row.allMarkup p (1 + Cell.imageCounts first.cells) rest) := by
    rw [helements]
    obtain ⟨cells, header⟩ := first
    exact List.append_nil _
  refine ⟨tree, root, tbl, top, rows, htree, hroot, ?_, hcolumns, htr, htop, hrows⟩
  rw [htagged, find_documentMarkup_of_ne (by decide), ← htbl, ← hmarkup]

/-- A text token. -/
def wordToken (t : Text) : Datum := .record [("type", .text "text"), ("raw", .text t)]

/-- A link with one word in it. -/
def linkToken : Datum :=
  .record [("type", .text "link"), ("attrs", .record [("url", .text "u")]),
    ("children", .list [wordToken "b"])]

/-- A cell with these tokens, which leaves it to others whether it belongs to the head. -/
def cellToken (ds : List Datum) : Datum :=
  .record [("type", .text "table_cell"), ("attrs", .record [("align", .absent)]),
    ("children", .list ds)]

/-- A row of such cells. -/
def rowToken (cells : List (List Datum)) : Datum :=
  .record [("type", .text "table_row"), ("children", .list (cells.map cellToken))]

/-- A table with two columns and three rows in its body: one that is shorter, one that is longer,
and one without cells. -/
def raggedTable : Datum :=
  .record [("type", .text "table"), ("children", .list
    [.record [("type", .text "table_head"),
        ("children", .list ([[wordToken "a", linkToken], []].map cellToken))],
      .record [("type", .text "table_body"), ("children", .list
        ([[[linkToken]], [[], [wordToken "c"], [linkToken, linkToken]], []].map rowToken))]])]

/-- The ragged table: the short row is filled up, the long one keeps its third cell, and the row
without cells has two empty ones. -/
theorem Style.table_partText_raggedTable :
    let s : Style := { linkMode := .hyperlink }
    Token.IsTable raggedTable [[wordToken "a", linkToken], []]
        [[[linkToken]], [[], [wordToken "c"], [linkToken, linkToken]], []] ∧
      (∀ c ∈ s.linkColor, c ≠ '<' ∧ c ≠ '&' ∧ c ≠ '"') ∧
      ∃ tree root tbl top short long bare, Node.ofDocument (.list [raggedTable]) = .ok tree ∧
        Xml.read? (s.partText tree.elements .document) = some root ∧
        let p := s.linkPolicy (Element.allLinks tree.elements)
        root.tagged "w:tbl" = [tbl] ∧ (tbl.tagged "w:gridCol").length = 2 ∧
        tbl.tagged "w:tr" = [top, short, long, bare] ∧
        IsTextRow p 2 true top [[wordToken "a", linkToken], []] ∧
        IsTextRow p 2 false short [[linkToken]] ∧
        IsTextRow p 2 false long [[], [wordToken "c"], [linkToken, linkToken]] ∧
        IsTextRow p 2 false bare [] := by
  intro s
  -- the tokens of the cells: three words and a link, which holds one of the words
  have ha : Token.IsReadable (wordToken "a") := .mk (by decide) nofun
  have hb : Token.IsReadable (wordToken "b") := .mk (by decide) nofun
  have hc : Token.IsReadable (wordToken "c") := .mk (by decide) nofun
  have hlink : Token.IsReadable linkToken :=
    .mk (by decide) (List.forall_mem_singleton.mpr hb)
  have hcell : ∀ (header : Bool) (ds : List Datum), (∀ d ∈ ds, Token.IsReadable d) →
      Token.IsTableCell header (cellToken ds) ds := by
    intro header ds hds
    exact .mk rfl rfl (by cases header <;> rfl) rfl hds
  have hrow : ∀ cells : List (List Datum), (∀ ds ∈ cells, ∀ d ∈ ds, Token.IsReadable d) →
      Token.IsTableRow (rowToken cells) cells := by
    intro cells hcells
    refine .mk rfl rfl (List.forall₂_map_left_iff.mpr ?_)
    exact List.forall₂_same.mpr fun ds hds => hcell false ds (hcells ds hds)
  -- the head has two cells and the body three rows, with one, three and no cells
  have htable : Token.IsTable raggedTable [[wordToken "a", linkToken], []]
      [[[linkToken]], [[], [wordToken "c"], [linkToken, linkToken]], []] := by
    refine .mk rfl rfl rfl rfl
      (.cons (hcell true _ ?_) (.cons (hcell true _ nofun) .nil)) nofun
      (.body rfl rfl (.cons (hrow _ ?_) (.cons (hrow _ ?_) (.cons (hrow _ nofun) .nil))))
    · simp [ha, hlink]
    · simp [hlink]
    · simp [hc, hlink]
  have hcolor : ∀ c ∈ s.linkColor, c ≠ '<' ∧ c ≠ '&' ∧ c ≠ '"' := by decide
  obtain ⟨tree, root, tbl, top, rows, htree, hroot, htbl, hcolumns, htr, htop, hrows⟩ :=
    s.table_partText htable hcolor
  -- three rows below the head, and no more
  rcases hrows with _ | ⟨hshort, _ | ⟨hlong, _ | ⟨hbare, _ | _⟩⟩⟩
  exact ⟨htable, hcolor, tree, root, tbl, top, _, _, _, htree, hroot, htbl, hcolumns, htr, htop,
    hshort, hlong, hbare⟩

end Wordsmith
