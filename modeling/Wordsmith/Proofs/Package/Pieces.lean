import Wordsmith.Package.Part
import Wordsmith.Proofs.Package.Body

/-!
# The pieces of a document

Whatever blocks, lists and tables there are around them, the texts of a document are a sequence of
pieces in reading order: the run sequences of paragraphs, quotes and list items, and the texts of
headings and code blocks. What is written for the blocks says nothing about texts or links, so these
are found in the body exactly where the pieces are (`find_documentMarkup`).

* `Element.pieces`, `Element.allPieces` — the pieces by recursion over the elements.
* `Element.allLinks_eq` — the links of a document are those of its pieces.
* `find_elements` — a search in what is written goes through the pieces, for every tag that is neither
  that of a block nor of a picture (`Markup.blockTags`, `Markup.pictureTags`).

So a statement about the texts or the links of a part is proved once for pieces and holds of every
document.
-/

namespace Wordsmith

/-- A stretch of text in a document. -/
inductive Piece where
  /-- The runs of a paragraph, a quote or a list item. -/
  | sequence (runs : List Run)
  /-- The text of a heading or a code block. -/
  | text (t : Text)

namespace Piece

/-- The runs of a piece, absent if it stores only a text. -/
def runs? : Piece → Option (List Run)
  | .sequence runs => some runs
  | .text _ => none

/-- The text of a piece. -/
def allText : Piece → Text
  | .sequence runs => Run.allText runs
  | .text t => t

end Piece

mutual

/-- The pieces of an element in reading order; a part of an element that stands alone has none. -/
def Element.pieces : Element → List Piece
  | .heading _ text => [.text text]
  | .paragraph runs => [.sequence runs]
  | .quote runs => [.sequence runs]
  | .bulletList items => items.map fun item => .sequence item.runs
  | .numberedList items => items.map fun item => .sequence item.runs
  | .codeBlock _ code => [.text code]
  | .table rows => Row.allPieces rows
  | _ => []

/-- The pieces in the rows of a table, row by row. -/
def Row.allPieces : List Row → List Piece
  | [] => []
  | ⟨cells, _⟩ :: rows => Cell.allPieces cells ++ Row.allPieces rows

/-- The pieces in the cells of a row. -/
def Cell.allPieces : List Cell → List Piece
  | [] => []
  | ⟨content⟩ :: cells => Element.allPieces content ++ Cell.allPieces cells

/-- The pieces of a sequence of elements. -/
def Element.allPieces : List Element → List Piece
  | [] => []
  | e :: es => e.pieces ++ Element.allPieces es

end

/-- The run sequences of a document in reading order: one for each paragraph, quote and list item, in
the cells of tables too. -/
def Element.runSequences (es : List Element) : List (List Run) :=
  (Element.allPieces es).filterMap Piece.runs?

/-! ## Links

The writer collects its links by a recursion of its own (`Element.links`). It visits the run sequences
in the same order as `Element.pieces` does. -/

/-- The link targets in a sequence of pieces. -/
def Piece.allTargets (pieces : List Piece) : List Text :=
  (pieces.filterMap Piece.runs?).flatMap Run.targets

/-- The targets of pieces are collected from left to right. -/
theorem Piece.allTargets_append (ps qs : List Piece) :
    Piece.allTargets (ps ++ qs) = Piece.allTargets ps ++ Piece.allTargets qs := by
  unfold allTargets
  rw [List.filterMap_append, List.flatMap_append]

mutual

/-- The links of an element are those of its pieces. Only runs have links; the items of a list bring
theirs one after the other. -/
theorem Element.links_eq (e : Element) : e.links = Piece.allTargets e.pieces := by
  -- a list is a sequence of run sequences, so this goes by induction on its items
  have hitems : ∀ items : List ListItem,
      (items.flatMap fun item => Run.targets item.runs)
        = Piece.allTargets (items.map fun item => .sequence item.runs) := by
    intro items
    induction items with
    | nil => rfl
    | cons item items ih =>
      rw [List.flatMap_cons, ih]
      rfl
  cases e with
  | paragraph runs => exact (List.append_nil _).symm
  | quote runs => exact (List.append_nil _).symm
  | bulletList items => exact hitems items
  | numberedList items => exact hitems items
  | table rows => exact Row.allLinks_eq rows
  | heading => rfl
  | codeBlock => rfl
  | horizontalRule => rfl
  | image => rfl
  | loneRun => rfl
  | loneItem => rfl
  | loneRow => rfl
  | loneCell => rfl

theorem Row.allLinks_eq (rows : List Row) :
    Row.allLinks rows = Piece.allTargets (Row.allPieces rows) := by
  cases rows with
  | nil => rfl
  | cons row rows =>
    obtain ⟨cells, header⟩ := row
    rw [Row.allLinks, Row.allPieces, Piece.allTargets_append, Cell.allLinks_eq cells,
      Row.allLinks_eq rows]

theorem Cell.allLinks_eq (cells : List Cell) :
    Cell.allLinks cells = Piece.allTargets (Cell.allPieces cells) := by
  cases cells with
  | nil => rfl
  | cons cell cells =>
    obtain ⟨content⟩ := cell
    rw [Cell.allLinks, Cell.allPieces, Piece.allTargets_append, Element.allLinks_eq content,
      Cell.allLinks_eq cells]

/-- The links of a document are the targets of its run sequences in reading order. -/
theorem Element.allLinks_eq (es : List Element) :
    Element.allLinks es = Piece.allTargets (Element.allPieces es) := by
  cases es with
  | nil => rfl
  | cons e es =>
    rw [Element.allLinks, Element.allPieces, Piece.allTargets_append, Element.links_eq e,
      Element.allLinks_eq es]

end

/-! ## The pieces in the body

Finding a tag in markup skips every element with another tag and goes on in its children
(`Markup.find`). The emitters below write tags of `blockTags` around their content, so a search for any
other tag comes to the content. -/

namespace Markup

/-- The tags around the texts and the links of a body, apart from those of pictures. -/
def blockTags : List String :=
  ["w:document", "w:body", "w:p", "w:pPr", "w:pStyle", "w:r", "w:rPr", "w:rStyle", "w:b", "w:i",
    "w:strike", "w:color", "w:u", "w:numPr", "w:ilvl", "w:numId", "w:pBdr", "w:bottom", "w:tbl",
    "w:tblPr", "w:tblStyle", "w:tblW", "w:tblGrid", "w:gridCol", "w:tr", "w:trPr", "w:tblHeader",
    "w:tc", "w:tcPr", "w:tcW", "w:sectPr", "w:pgSz", "w:pgMar"]

/-- The tags of rows, of cells and of what is written for a cell without content. -/
def rowFrameTags : List String :=
  ["w:tr", "w:trPr", "w:tblHeader", "w:tc", "w:tcPr", "w:tcW", "w:p"]

/-- Rows use some of the tags of blocks. -/
theorem rowFrameTags_subset : ∀ t ∈ rowFrameTags, t ∈ blockTags := by decide

/-- The tags of pictures. -/
def pictureTags : List String :=
  ["w:drawing", "wp:inline", "wp:extent", "wp:docPr", "a:graphic", "a:graphicData", "pic:pic",
    "pic:nvPicPr", "pic:cNvPr", "pic:cNvPicPr", "pic:blipFill", "a:blip", "pic:spPr", "a:xfrm",
    "a:off", "a:ext"]

section Rows

/-! A row adds no texts and no links to the content of its cells. -/

variable {tag : String} (htag : ∀ t ∈ rowFrameTags, t ≠ tag)

include htag

/-- The frame of a row is passed over. -/
theorem find_rowFrame {t : String} (ht : t ∈ rowFrameTags) {attributes : List Attribute}
    {ms : List Markup} : find tag [.element t attributes ms] = find tag ms :=
  find_element_of_ne (htag t ht)

/-- And what stands empty in it is not found. -/
theorem find_rowMark {t : String} (ht : t ∈ rowFrameTags) {attributes : List Attribute} :
    find tag [.empty t attributes] = [] :=
  find_empty_of_ne (htag t ht)

theorem find_cellProperties (columnWidth : Int) :
    find tag [.element "w:tcPr" [] [width "w:tcW" columnWidth]] = [] := by
  rw [find_rowFrame htag (by simp [rowFrameTags]), width,
    find_rowMark htag (by simp [rowFrameTags])]

/-- In a cell there is its content; a cell without content has an empty paragraph. -/
theorem find_tableCell (columnWidth : Int) (content : List Markup) :
    find tag [tableCell columnWidth content] = find tag content := by
  unfold tableCell
  rw [find_rowFrame htag (by simp [rowFrameTags]), find_cons, find_cellProperties htag,
    List.nil_append]
  cases content with
  | nil => exact find_rowMark htag (by simp [rowFrameTags])
  | cons m ms => rfl

theorem find_rowProperties (header : Bool) :
    find tag (if header then [.element "w:trPr" [] [.empty "w:tblHeader" []]] else []) = [] := by
  split
  · rw [find_rowFrame htag (by simp [rowFrameTags]), find_rowMark htag (by simp [rowFrameTags])]
  · rfl

/-- The cells that fill up a row hold nothing. -/
theorem find_tableRow (count : Nat) (columnWidth : Int) (row : RowMarkup) :
    find tag [tableRow count columnWidth row] = row.cells.flatMap (find tag) := by
  -- the cells that fill up the row are found in the same way, and there is nothing in them
  have hpadding : ∀ n : Nat, (List.replicate n ([] : List Markup)).flatMap (find tag) = [] := by
    intro n
    induction n with
    | zero => rfl
    | succ n ih => rw [List.replicate_succ, List.flatMap_cons, ih]; rfl
  unfold tableRow
  rw [find_rowFrame htag (by simp [rowFrameTags]), find_append, find_rowProperties htag,
    List.nil_append, find_map]
  simp only [find_tableCell htag]
  rw [List.flatMap_append, hpadding, List.append_nil]

end Rows

variable {tag : String} (htag : ∀ t ∈ blockTags, t ≠ tag)

include htag

/-- An element around other markup is passed over. -/
theorem find_block {t : String} (ht : t ∈ blockTags) {attributes : List Attribute}
    {ms : List Markup} : find tag [.element t attributes ms] = find tag ms :=
  find_element_of_ne (htag t ht)

/-- An empty element is not found. -/
theorem find_mark {t : String} (ht : t ∈ blockTags) {attributes : List Attribute} :
    find tag [.empty t attributes] = [] :=
  find_empty_of_ne (htag t ht)

/-- The properties come before the content. -/
theorem find_paragraph (properties content : List Markup) :
    find tag [.paragraph properties content] = find tag properties ++ find tag content := by
  unfold paragraph
  rw [find_block htag (by simp [blockTags]), find_append]
  congr 1
  -- without properties there is no element around them
  cases properties with
  | nil => rfl
  | cons m ms => exact find_block htag (by simp [blockTags])

/-- The marks of a run say nothing about texts or links. -/
theorem find_properties (p : LinkPolicy) (r : Run) : find tag (r.properties p) = [] := by
  -- each mark is an empty element that may be left out
  have hif : ∀ {b : Bool} {t : String} {attributes : List Attribute}, t ∈ blockTags →
      find tag (if b then [.empty t attributes] else []) = [] := by
    intro b t attributes ht
    cases b with
    | false => rfl
    | true => exact find_mark htag ht
  unfold Run.properties value
  rw [find_append, find_append, find_append, find_append, find_append,
    hif (by simp [blockTags]), hif (by simp [blockTags]), hif (by simp [blockTags]),
    hif (by simp [blockTags]), hif (by simp [blockTags]), hif (by simp [blockTags])]
  rfl

/-- In a run there is its text. -/
theorem find_run (p : LinkPolicy) (r : Run) :
    find tag [r.markup p] = find tag [runText r.text] := by
  unfold Run.markup
  rw [find_block htag (by simp [blockTags]), find_append]
  split
  · rfl
  · rw [find_block htag (by simp [blockTags]), find_properties htag]
    rfl

/-- The text of a heading is one run. -/
theorem find_heading (level : Int) (text : Text) :
    find tag [heading level text] = find tag [runText text] := by
  unfold heading
  rw [find_paragraph htag, styleReference, value, find_mark htag (by simp [blockTags]),
    find_block htag (by simp [blockTags])]
  rfl

/-- So is that of code, which is marked as code besides. -/
theorem find_codeBlock (code : Text) : find tag [codeBlock code] = find tag [runText code] := by
  unfold codeBlock
  rw [find_paragraph htag, styleReference, value, find_mark htag (by simp [blockTags]),
    find_block htag (by simp [blockTags]), find_cons, find_block htag (by simp [blockTags]), value,
    find_mark htag (by simp [blockTags])]
  rfl

/-- A rule has no text. -/
theorem find_horizontalRule : find tag [horizontalRule] = [] := by
  unfold horizontalRule
  rw [find_paragraph htag, find_block htag (by simp [blockTags]),
    find_mark htag (by simp [blockTags])]
  rfl

/-- The properties of an item name its style and its list. -/
theorem find_itemProperties (style : Text) (list level : Int) :
    find tag (itemProperties style list level) = [] := by
  unfold itemProperties
  rw [find_cons, styleReference, value, find_mark htag (by simp [blockTags]),
    find_block htag (by simp [blockTags]), find_cons, value, find_mark htag (by simp [blockTags]),
    value, find_mark htag (by simp [blockTags])]
  rfl

omit htag in
/-- The words for a picture are attributes, not text. -/
theorem find_image (htag : ∀ t ∈ blockTags ++ pictureTags, t ≠ tag) (number : Nat)
    (altText : Text) : find tag [image number altText] = [] := by
  have hne : ∀ t ∈ blockTags ++ pictureTags, t ≠ tag := htag
  simp only [List.forall_mem_append, blockTags, pictureTags, List.forall_mem_cons] at hne
  unfold image
  simp only [find_cons _ _ (_ :: _), find_element_of_ne, find_empty_of_ne, hne, ne_eq,
    not_false_eq_true, List.append_nil]

/-- The properties and the columns of a table say nothing about texts or links. -/
theorem find_tableProperties (count : Nat) (columnWidth total : Int) :
    find tag
      [.element "w:tblPr" [] [value "w:tblStyle" "TableGrid", width "w:tblW" total],
        .element "w:tblGrid" []
          (List.replicate count (.empty "w:gridCol" [.int "w:w" columnWidth]))] = [] := by
  -- the columns are copies of one empty element
  have hgrid : find tag (List.replicate count (.empty "w:gridCol" [.int "w:w" columnWidth]))
      = [] := by
    apply find_eq_nil
    intro m hm
    rw [List.eq_of_mem_replicate hm]
    exact find_mark htag (by simp [blockTags])
  rw [find_cons, find_block htag (by simp [blockTags]), find_block htag (by simp [blockTags]),
    hgrid, find_cons, value, find_mark htag (by simp [blockTags]), width,
    find_mark htag (by simp [blockTags])]
  rfl

/-- A table holds what its cells hold, row by row. -/
theorem find_table (contentWidth : Int) (rows : List RowMarkup) :
    find tag (table contentWidth rows) = rows.flatMap fun row => row.cells.flatMap (find tag) := by
  cases rows with
  | nil => rfl
  | cons first rest =>
    show find tag [element "w:tbl" []
      ([element "w:tblPr" [] _, element "w:tblGrid" [] _] ++
        (first :: rest).map (tableRow _ _))] = _
    rw [find_block htag (by simp [blockTags]), find_append, find_tableProperties htag,
      List.nil_append, find_map]
    simp only [find_tableRow fun t ht => htag t (rowFrameTags_subset t ht)]

/-- The size and the margins of the page are attributes. -/
theorem find_section (size : PageSize) (margins : PageMargins) :
    find tag [sectionMarkup size margins] = [] := by
  unfold sectionMarkup
  rw [find_block htag (by simp [blockTags]), find_cons, find_mark htag (by simp [blockTags]),
    find_mark htag (by simp [blockTags])]
  rfl

/-! Hyperlinks are made of groups of runs, so there is none in a text or in a run. -/

omit htag in
/-- The text of a run holds no element. -/
theorem find_hyperlink_runText (t : Text) : find "w:hyperlink" [runText t] = [] := by
  unfold runText
  rw [find_element_of_ne (by decide), find_text]

omit htag in
/-- A hyperlink encloses runs and is not enclosed by one. -/
theorem find_hyperlink_runs {p : LinkPolicy} (group : List Run) :
    find "w:hyperlink" (group.map (Run.markup p)) = [] := by
  apply find_eq_nil
  intro m hm
  obtain ⟨r, -, rfl⟩ := List.mem_map.mp hm
  rw [find_run (by decide), find_hyperlink_runText]

end Markup

/-- What is written for a piece. -/
def Piece.markup (p : LinkPolicy) : Piece → List Markup
  | .sequence runs => Run.allMarkup p runs
  | .text t => [.runText t]

section Elements

open Markup

variable {tag : String}

/-- Items come down to their run sequences. -/
theorem find_items (htag : ∀ t ∈ blockTags, t ≠ tag)
    (p : LinkPolicy) (style : Text) (list : Int) (items : List ListItem) :
    find tag (ListItem.allMarkup p style list items)
      = (items.map fun item => Piece.sequence item.runs).flatMap fun piece =>
          find tag (piece.markup p) := by
  unfold ListItem.allMarkup
  rw [find_map, List.flatMap_map]
  simp only [find_paragraph htag, find_itemProperties htag, List.nil_append]
  rfl

/-! The walk of the writer and the walk over the pieces go through the elements in the same order.
One lemma for each function of the walk; the number of the next image plays no part. -/

mutual

theorem find_element (htag : ∀ t ∈ blockTags ++ pictureTags, t ≠ tag)
    (p : BodyPolicy) (cell : Option Text) (next : Nat) (e : Element) :
    find tag (e.markup p cell next)
      = e.pieces.flatMap fun piece => find tag (piece.markup p.links) := by
  have hblock : ∀ t ∈ blockTags, t ≠ tag := fun t ht => htag t (List.mem_append_left _ ht)
  cases e with
  | heading level text =>
    rw [Element.markup, find_heading hblock]
    exact (List.append_nil _).symm
  | paragraph runs =>
    -- the reference to a style in a cell is empty
    have hstyle : find tag (cell.toList.map fun style => styleReference style) = [] := by
      apply find_eq_nil
      intro m hm
      obtain ⟨style, -, rfl⟩ := List.mem_map.mp hm
      exact find_mark hblock (by simp [blockTags])
    rw [Element.markup, find_paragraph hblock, hstyle]
    exact (List.append_nil _).symm
  | quote runs =>
    have hstyle : find tag [styleReference "Quote"] = [] := find_mark hblock (by simp [blockTags])
    rw [Element.markup, find_paragraph hblock, hstyle]
    exact (List.append_nil _).symm
  | bulletList items => exact find_items hblock p.links _ _ items
  | numberedList items => exact find_items hblock p.links _ _ items
  | codeBlock language code =>
    rw [Element.markup, find_codeBlock hblock]
    exact (List.append_nil _).symm
  | table rows =>
    rw [Element.markup, find_table hblock]
    exact find_rows htag p next rows
  | horizontalRule => exact find_horizontalRule hblock
  | image altText source => exact find_image htag next altText
  | loneRun _ => rfl
  | loneItem _ => rfl
  | loneRow _ => rfl
  | loneCell _ => rfl

theorem find_rows (htag : ∀ t ∈ blockTags ++ pictureTags, t ≠ tag)
    (p : BodyPolicy) (next : Nat) (rows : List Row) :
    ((Row.allMarkup p next rows).flatMap fun row => row.cells.flatMap (find tag))
      = (Row.allPieces rows).flatMap fun piece => find tag (piece.markup p.links) := by
  cases rows with
  | nil => rfl
  | cons row rows =>
    obtain ⟨cells, header⟩ := row
    rw [Row.allMarkup, Row.allPieces, List.flatMap_cons, List.flatMap_append,
      find_rows htag p _ rows]
    exact congrArg (· ++ _) (find_cells htag p _ next cells)

theorem find_cells (htag : ∀ t ∈ blockTags ++ pictureTags, t ≠ tag)
    (p : BodyPolicy) (style : Text) (next : Nat) (cells : List Cell) :
    (Cell.allMarkup p style next cells).flatMap (find tag)
      = (Cell.allPieces cells).flatMap fun piece => find tag (piece.markup p.links) := by
  cases cells with
  | nil => rfl
  | cons cell cells =>
    obtain ⟨content⟩ := cell
    -- the content of a cell, then the cells behind it
    rw [Cell.allMarkup, Cell.allPieces, List.flatMap_cons, List.flatMap_append,
      find_elements htag p _ next content, find_cells htag p style _ cells]

theorem find_elements (htag : ∀ t ∈ blockTags ++ pictureTags, t ≠ tag)
    (p : BodyPolicy) (cell : Option Text) (next : Nat) (es : List Element) :
    find tag (Element.allMarkup p cell next es)
      = (Element.allPieces es).flatMap fun piece => find tag (piece.markup p.links) := by
  cases es with
  | nil => rfl
  | cons e es =>
    rw [Element.allMarkup, Element.allPieces, find_append, List.flatMap_append,
      find_element htag p cell next e, find_elements htag p cell _ es]

end

/-- The texts and links of the document part are those of its pieces, in reading order. -/
theorem find_documentMarkup (htag : ∀ t ∈ blockTags ++ pictureTags, t ≠ tag)
    (p : BodyPolicy) (size : PageSize) (margins : PageMargins) (es : List Element) :
    find tag [documentMarkup p size margins es]
      = (Element.allPieces es).flatMap fun piece => find tag (piece.markup p.links) := by
  have hblock : ∀ t ∈ blockTags, t ≠ tag := fun t ht => htag t (List.mem_append_left _ ht)
  unfold documentMarkup
  rw [find_block hblock (by simp [blockTags]), find_block hblock (by simp [blockTags]), find_append,
    find_section hblock, List.append_nil, find_elements htag p none 1 es]

end Elements

/-! ## Reading the parts

Both parts keep to lexica that can be read back, so a search in what is read is a search in the markup. -/

/-- The document part can be read, and has under each tag what is found in its markup. -/
theorem Style.exists_read?_document (s : Style) (es : List Element)
    (hcolor : ∀ c ∈ s.linkColor, c ≠ '<' ∧ c ≠ '&' ∧ c ≠ '"') :
    ∃ root, Xml.read? (s.partText es .document) = some root ∧
      ∀ tag, root.tagged tag = Markup.find tag
        [documentMarkup (s.bodyPolicy (Element.allLinks es)) s.pageSize s.pageMargins es] :=
  (Markup.within_documentMarkup (s.bodyPolicy (Element.allLinks es)) s.pageSize s.pageMargins
    es).exists_read? (documentLexicon_legible hcolor)

/-- The part of relationships can always be read: nothing in it is written without escaping. -/
theorem Style.exists_read?_relationships (s : Style) (es : List Element) :
    ∃ root, Xml.read? (s.partText es .documentRelationships) = some root ∧
      ∀ tag, root.tagged tag = Markup.find tag
        [(s.linkPolicy (Element.allLinks es)).table.relationships] :=
  (s.linkPolicy (Element.allLinks es)).table.within_relationships.exists_read?
    relationshipLexicon_legible

end Wordsmith
