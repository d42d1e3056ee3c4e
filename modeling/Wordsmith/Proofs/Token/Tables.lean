import Wordsmith.Proofs.Token.Shape
import Wordsmith.Proofs.Token.Shown

/-!
# Tables from tokens

The tokens of a table are a head, which holds cells, and at most one body, which holds rows of
cells; rows may be of any lengths. Such a token becomes one table: a header row and the rows of the
body, and every cell one paragraph with the runs of its inline tokens (`exists_table`).

* `Token.IsTable` — the tokens, as the reader of Markdown gives them.
* `Node.IsRowOf` — the nodes that are made of them (`exists_cells`, `exists_rows`, `exists_head`).
* `Row.IsOf` — the rows of the element that the nodes become.
-/

namespace Wordsmith

open Datum Token

namespace Token

/-! ## Table tokens

Each relation is between tokens and what is to be seen of them: the inline tokens of a cell, the cells
of a row, and the rows of the body. -/

/-- A cell with these inline tokens. Whether it belongs to the head it says itself, or else the part
of the table does that it stands in. -/
inductive IsTableCell (header : Bool) : Datum → List Datum → Prop where
  | mk {fs attrs : List (Text × Datum)} {ds : List Datum} (htype : IsTyped "table_cell" fs)
      (hattrs : HasAttributes fs attrs)
      (hheader : ((field? "head" attrs).getD (.flag header)).isTruthy = header)
      (hchildren : HasChildren fs ds) (hinline : ∀ d ∈ ds, IsReadable d) :
      IsTableCell header (.record fs) ds

/-- A row of a table's body with these cells. -/
inductive IsTableRow : Datum → List (List Datum) → Prop where
  | mk {fs : List (Text × Datum)} {tokens : List Datum} {cells : List (List Datum)}
      (htype : IsTyped "table_row" fs) (hchildren : HasChildren fs tokens)
      (hcells : List.Forall₂ (IsTableCell false) tokens cells) : IsTableRow (.record fs) cells

/-- At most one body of a table, with these rows. -/
inductive IsTableBody : List Datum → List (List (List Datum)) → Prop where
  | none : IsTableBody [] []
  | body {fs : List (Text × Datum)} {tokens : List Datum} {rows : List (List (List Datum))}
      (htype : IsTyped "table_body" fs) (hchildren : HasChildren fs tokens)
      (hrows : List.Forall₂ IsTableRow tokens rows) : IsTableBody [.record fs] rows

/-- A table with these cells in its head, one at least, and these rows in its body. -/
inductive IsTable : Datum → List (List Datum) → List (List (List Datum)) → Prop where
  | mk {fs headFields : List (Text × Datum)} {tokens body : List Datum}
      {head : List (List Datum)} {rows : List (List (List Datum))} (htype : IsTyped "table" fs)
      (hchildren : HasChildren fs (.record headFields :: body))
      (hhead : IsTyped "table_head" headFields) (hheadChildren : HasChildren headFields tokens)
      (hcells : List.Forall₂ (IsTableCell true) tokens head) (hne : head ≠ [])
      (hbody : IsTableBody body rows) : IsTable (.record fs) head rows

end Token

namespace Node

/-! ## Rows and cells as nodes

A head holds cells without a row around them, and they become one row. Whether a cell is one of the
head is handed down from the section, unless the cell says so itself. -/

/-- The nodes of cells with these inline tokens. -/
structure AreCellsOf (header : Bool) (nodes : List Node) (cells : List (List Datum)) : Prop where
  kinds : ∀ n ∈ nodes, n.kind = .tableCell
  headers : ∀ n ∈ nodes, n.header = header
  children : List.Forall₂ (fun n ds => ofTokens ds = .ok n.children) nodes cells

/-- The node of a row with these cells. -/
structure IsRowOf (header : Bool) (n : Node) (cells : List (List Datum)) : Prop where
  kind : n.kind = .tableRow
  cells : AreCellsOf header n.children cells

/-- A cell in front of others. -/
theorem AreCellsOf.cons {header : Bool} {n : Node} {ds : List Datum} {nodes : List Node}
    {cells : List (List Datum)} (hkind : n.kind = .tableCell) (hheader : n.header = header)
    (hchildren : ofTokens ds = .ok n.children) (h : AreCellsOf header nodes cells) :
    AreCellsOf header (n :: nodes) (ds :: cells) where
  kinds := List.forall_mem_cons.mpr ⟨hkind, h.kinds⟩
  headers := List.forall_mem_cons.mpr ⟨hheader, h.headers⟩
  children := .cons hchildren h.children

/-- Cells of a table are read as nodes with the same tokens. -/
theorem exists_cells {header : Bool} {tokens : List Datum} {cells : List (List Datum)}
    (h : List.Forall₂ (IsTableCell header) tokens cells) :
    ∃ nodes, Node.cells header tokens = .ok nodes ∧ AreCellsOf header nodes cells := by
  induction h with
  | nil => exact ⟨[], cells_nil header, nofun, nofun, .nil⟩
  | @cons token ds tokens cells hcell _ ih =>
    obtain ⟨others, hothers, hcells⟩ := ih
    cases hcell with
    | @mk fs attrs _ htype hattrs hheader hchildren hinline =>
      obtain ⟨nodes, hnodes⟩ := returns_ofTokens ds hinline
      have hcell := cells_cons hattrs (content_of_hasChildren hchildren hnodes) hothers
      exact ⟨_, hcell, hcells.cons rfl hheader hnodes⟩

/-- Rows of a body are read as nodes with the same cells. -/
theorem exists_rows {tokens : List Datum} {rows : List (List (List Datum))}
    (h : List.Forall₂ IsTableRow tokens rows) :
    ∃ nodes, Node.rows false tokens = .ok nodes ∧ List.Forall₂ (IsRowOf false) nodes rows := by
  induction h with
  | nil => exact ⟨[], rows_nil false, .nil⟩
  | cons hrow _ ih =>
    obtain ⟨others, hothers, hrows⟩ := ih
    obtain ⟨htype, hchildren, hcells⟩ := hrow
    obtain ⟨nodes, hnodes, hcells⟩ := exists_cells hcells
    refine ⟨{ kind := .tableRow, children := nodes } :: others, ?_, .cons ⟨rfl, hcells⟩ hrows⟩
    rw [Node.rows, row_of_hasChildren hchildren hnodes, hothers]
    rfl

/-- The cells of a head are one row. -/
theorem exists_head {fs : List (Text × Datum)} {tokens : List Datum} {cells : List (List Datum)}
    (hchildren : HasChildren fs tokens) (h : List.Forall₂ (IsTableCell true) tokens cells)
    (hne : cells ≠ []) :
    ∃ n, sectionRows true fs = .ok [n] ∧ IsRowOf true n cells := by
  obtain ⟨nodes, hnodes, hcells⟩ := exists_cells h
  -- a head is read as one row since it starts with a cell
  have hstart : startsWithCell tokens = .ok true := by
    cases h with
    | nil => exact absurd rfl hne
    | cons hcell _ =>
      obtain ⟨htype, -⟩ := hcell
      exact startsWithCell_of_isTyped htype _
  refine ⟨{ kind := .tableRow, children := nodes }, ?_, rfl, hcells⟩
  rw [sectionRows_of_hasChildren hchildren, hstart, hnodes]
  rfl

/-- The body is read row by row, if there is one. -/
theorem exists_body {body : List Datum} {rows : List (List (List Datum))}
    (h : IsTableBody body rows) :
    ∃ nodes, sections body = .ok nodes ∧ List.Forall₂ (IsRowOf false) nodes rows := by
  cases h with
  | none => exact ⟨[], sections_nil, .nil⟩
  | @body fs tokens rows htype hchildren hrows =>
    obtain ⟨nodes, hnodes, hrowNodes⟩ := exists_rows hrows
    -- without rows nothing stands first, and a row is no cell
    have hstart : startsWithCell tokens = .ok false := by
      cases hrows with
      | nil => rfl
      | cons hrow _ =>
        obtain ⟨hrowType, -⟩ := hrow
        exact startsWithCell_of_isTyped hrowType _
    have hsection : sectionRows false fs = .ok nodes := by
      rw [sectionRows_of_hasChildren hchildren, hstart]
      exact hnodes
    exact ⟨nodes, sections_body htype hsection, hrowNodes⟩

end Node

/-! ## Rows as elements

A row is marked as a header if it has cells and all of them belong to the head, so the mark is read off
the cells. -/

/-- A cell that holds one paragraph, with the runs of these inline tokens. -/
def Cell.IsOf (c : Cell) (ds : List Datum) : Prop :=
  ∃ nodes, Node.ofTokens ds = .ok nodes ∧ c = ⟨[.paragraph (Node.allRuns nodes)]⟩

/-- A row with these cells. -/
structure Row.IsOf (header : Bool) (r : Row) (cells : List (List Datum)) : Prop where
  header : r.header = header
  cells : List.Forall₂ Cell.IsOf r.cells cells

namespace Node

/-- The row of a head has cells in it, and all of them belong to the head. -/
theorem isOf_tableRow {header : Bool} {n : Node} {cells : List (List Datum)}
    (h : IsRowOf header n cells) (hne : header = true → cells ≠ []) :
    (tableRow n).IsOf header cells where
  header := by
    show (!n.children.isEmpty && n.children.all (·.header)) = header
    have hheaders := h.cells.headers
    cases hchildren : n.children with
    | nil =>
      -- a header row has cells
      cases header with
      | false => rfl
      | true =>
        have hlength := h.cells.children.length_eq
        rw [hchildren] at hlength
        exact absurd (List.length_eq_zero_iff.mp hlength.symm) (hne rfl)
    | cons c cs =>
      rw [hchildren] at hheaders
      cases header with
      | false => simp [hheaders c List.mem_cons_self]
      | true => exact List.all_eq_true.mpr hheaders
  cells := by
    show List.Forall₂ Cell.IsOf ((n.children.filter fun c => c.kind = .tableCell).map _) cells
    -- only cells of a row are kept, and they are all cells
    rw [List.filter_eq_self.mpr fun c hc => decide_eq_true (h.cells.kinds c hc),
      List.forall₂_map_left_iff]
    exact h.cells.children.imp fun c ds hds => ⟨c.children, hds, rfl⟩

/-- A table token is read, and it becomes one table: the row of the head and those of the body. -/
theorem exists_table {table : Datum} {head : List (List Datum)} {body : List (List (List Datum))}
    (h : IsTable table head body) :
    ∃ tree first rest, ofDocument (.list [table]) = .ok tree ∧
      tree.elements = [.table (first :: rest)] ∧ Row.IsOf true first head ∧
      List.Forall₂ (Row.IsOf false) rest body := by
  cases h with
  | @mk fs headFields tokens bodyTokens _ _ htype hchildren hhead hheadChildren hcells hne hbody =>
    obtain ⟨first, hfirst, hfirstRow⟩ := exists_head hheadChildren hcells hne
    obtain ⟨rest, hrest, hrestRows⟩ := exists_body hbody
    have hrows : tableRows fs = .ok (first :: rest) := by
      rw [tableRows_of_hasChildren hchildren]
      exact sections_cons hhead (Or.inl ⟨rfl, hfirst⟩) hrest
    have htoken : ofToken (.record fs)
        = .ok (some { kind := .table, children := first :: rest }) := by
      have htype : type? fs = some .table := type?_of_isTyped htype
      rw [ofToken, htype]
      simp only [hrows]
      rfl
    have hdocument : ofDocument (.list [.record fs])
        = .ok
          { kind := .document, children := [{ kind := .table, children := first :: rest }] } := by
      show (do return ({ kind := .document, children := ← ofTokens [.record fs] } : Node)) = _
      rw [ofTokens_cons htoken ofTokens_nil]
      rfl
    -- only rows of a table are kept, and they are all rows
    have hkinds : ∀ n ∈ first :: rest, n.kind = .tableRow := by
      have hrest : List.Forall₂ (fun n cells => n.kind = .tableRow ∧ IsRowOf false n cells) rest
          body :=
        hrestRows.imp fun n cells hrow => ⟨hrow.kind, hrow⟩
      exact List.forall_mem_cons.mpr ⟨hfirstRow.kind, ((List.forall₂_and_left _ _).mp hrest).1⟩
    have hrestOf : List.Forall₂ (Row.IsOf false) (rest.map tableRow) body := by
      rw [List.forall₂_map_left_iff]
      exact hrestRows.imp fun n cells hrow => isOf_tableRow hrow (absurd · Bool.false_ne_true)
    refine ⟨_, tableRow first, rest.map tableRow, hdocument, ?_,
      isOf_tableRow hfirstRow fun _ => hne, hrestOf⟩
    show [Element.table (((first :: rest).filter fun row => row.kind = .tableRow).map tableRow)] = _
    rw [List.filter_eq_self.mpr fun n hn => decide_eq_true (hkinds n hn)]
    rfl

end Node

end Wordsmith
