import Wordsmith.Proofs.Package.Pieces
import Wordsmith.Proofs.Package.RunTags

/-!
# Blocks of the body

What is written for an element is paragraphs, or one table, or nothing (`Element.blocks`). Only in
tables there are the tags of tables: a paragraph holds none of them, so what is found under such a
tag is found by looking at tables alone (`OnlyParagraphs.find_eq_nil`).

* `Markup.paragraphTags`, `Markup.OnlyParagraphs` — what is written for anything but a table.
* `Markup.tableHead`, `Markup.exists_table_eq` — the shape of a table.
* `Markup.haveTags_markup` — the tags at the top of what is written for an element are its `blocks`.
-/

namespace Wordsmith

open Markup Xml

/-- The tags of the blocks that are written for an element. -/
def Element.blocks : Element → List String
  | .table rows => if rows.isEmpty then [] else ["w:tbl"]
  | .bulletList items | .numberedList items => items.map fun _ => "w:p"
  | .loneRun _ | .loneItem _ | .loneRow _ | .loneCell _ => []
  | .heading .. | .paragraph _ | .quote _ | .codeBlock .. | .horizontalRule | .image .. => ["w:p"]

/-- The elements have these tags. -/
def Xml.HaveTags (xs : List Xml) (tags : List String) : Prop :=
  List.Forall₂ (fun x tag => x.hasTag tag = true) xs tags

/-! ## Paragraphs

A search for the tag of a table, a row or a column comes to nothing in paragraphs. The emitters are
followed one by one, with `AllEverywhere` for the property of their tags. -/

namespace Markup

/-- The tags of paragraphs, and of what stands in them. -/
def paragraphTags : List String :=
  Run.tags ++ pictureTags ++
    ["w:p", "w:pPr", "w:pStyle", "w:rStyle", "w:numPr", "w:ilvl", "w:numId", "w:pBdr", "w:bottom"]

/-- The markup has no tags but those of paragraphs. -/
def OnlyParagraphs (ms : List Markup) : Prop := AllEverywhere (fun tag _ => tag ∈ paragraphTags) ms

/-- What is no tag of paragraphs is not found in them. -/
theorem OnlyParagraphs.find_eq_nil {ms : List Markup} (h : OnlyParagraphs ms) {tag : String}
    (htag : tag ∉ paragraphTags) : find tag ms = [] :=
  AllEverywhere.find_eq_nil h fun _ hmem => htag hmem

/-- An element of a paragraph around others. -/
theorem OnlyParagraphs.element {tag : String} (htag : tag ∈ paragraphTags)
    {attributes : List Attribute} {ms : List Markup} (h : OnlyParagraphs ms) :
    OnlyParagraphs [.element tag attributes ms] :=
  (Everywhere.element htag h).singleton

/-- A paragraph has properties or not, and its content. -/
theorem OnlyParagraphs.paragraph {properties content : List Markup}
    (hproperties : OnlyParagraphs properties) (hcontent : OnlyParagraphs content) :
    OnlyParagraphs [.paragraph properties content] := by
  have htag : "w:p" ∈ paragraphTags := by decide
  refine .element htag (allEverywhere_append.mpr ⟨?_, hcontent⟩)
  split
  · exact allEverywhere_nil
  · exact OnlyParagraphs.element (show "w:pPr" ∈ paragraphTags by decide) hproperties

/-- A property with a value. -/
theorem onlyParagraphs_value {tag : String} (htag : tag ∈ paragraphTags) (t : Text) :
    OnlyParagraphs [value tag t] :=
  (Everywhere.empty htag).singleton

/-- The tags of runs are among those of paragraphs. -/
theorem tags_subset : ∀ tag ∈ Run.tags, tag ∈ paragraphTags := by decide

/-- A text without marks. -/
theorem onlyParagraphs_text (t : Text) : OnlyParagraphs [runText t] :=
  (Run.everywhere_runText (fun tag htag _ => tags_subset tag htag) t).singleton

/-- Runs with their marks and their hyperlinks. -/
theorem onlyParagraphs_runs (p : LinkPolicy) (runs : List Run) :
    OnlyParagraphs (Run.allMarkup p runs) :=
  Run.allEverywhere_allMarkup (fun tag htag _ => tags_subset tag htag) (by decide) runs

/-- Items are paragraphs that refer to a list. -/
theorem onlyParagraphs_items (p : LinkPolicy) (style : Text) (list : Int) (items : List ListItem) :
    OnlyParagraphs (ListItem.allMarkup p style list items) := by
  refine allEverywhere_map.mpr fun item _ => ?_
  have hproperties : OnlyParagraphs (itemProperties style list item.level) := by
    simp [OnlyParagraphs, itemProperties, styleReference, paragraphTags]
  exact (hproperties.paragraph (onlyParagraphs_runs p item.runs)) _ List.mem_cons_self

/-- What is no table is written without the tags of tables. -/
theorem onlyParagraphs_markup (p : BodyPolicy) (cell : Option Text) (next : Nat) {e : Element}
    (h : e.kind ≠ "table") : OnlyParagraphs (e.markup p cell next) := by
  have hstyle := onlyParagraphs_value (show "w:pStyle" ∈ paragraphTags by decide)
  cases e with
  | heading level text =>
    exact (hstyle _).paragraph (.element (by decide) (onlyParagraphs_text text))
  | paragraph runs =>
    refine OnlyParagraphs.paragraph ?_ (onlyParagraphs_runs p.links runs)
    -- in a cell there is a style, which is a value
    cases cell with
    | none => exact allEverywhere_nil
    | some style => exact hstyle style
  | quote runs => exact (hstyle _).paragraph (onlyParagraphs_runs p.links runs)
  | bulletList items => exact onlyParagraphs_items p.links _ 1 items
  | numberedList items => exact onlyParagraphs_items p.links _ 2 items
  | codeBlock language code =>
    have hproperties : OnlyParagraphs [.element "w:rPr" [] [value "w:rStyle" "Code"]] :=
      .element (by decide) (onlyParagraphs_value (by decide) "Code")
    exact (hstyle _).paragraph (.element (by decide)
      (allEverywhere_append.mpr ⟨hproperties, onlyParagraphs_text code⟩))
  | table rows => exact absurd rfl h
  | horizontalRule =>
    exact OnlyParagraphs.paragraph
      (.element (by decide) (Everywhere.empty (by decide)).singleton) allEverywhere_nil
  -- the tags of a picture are many, and none is that of a table
  | image altText source =>
    simp [OnlyParagraphs, Element.markup, image, paragraphTags, pictureTags, Run.tags]
  | loneRun _ => exact allEverywhere_nil
  | loneItem _ => exact allEverywhere_nil
  | loneRow _ => exact allEverywhere_nil
  | loneCell _ => exact allEverywhere_nil

/-- What has no place in paragraphs is only found in tables. -/
theorem find_markup_eq_nil {tag : String} (htag : tag ∉ paragraphTags) (p : BodyPolicy)
    (cell : Option Text) (next : Nat) {e : Element} (h : e.kind ≠ "table") :
    find tag (e.markup p cell next) = [] :=
  (onlyParagraphs_markup p cell next h).find_eq_nil htag

/-! ## Tables

A table has its properties and its columns in front and its rows behind. How many columns there are is
decided by the first row, which has at least one. -/

/-- The tags of what stands in a table in front of its rows. -/
def tableHeadTags : List String := ["w:tblPr", "w:tblStyle", "w:tblW", "w:tblGrid", "w:gridCol"]

/-- What stands in a table in front of its rows: its properties, and its columns. -/
def tableHead (count : Nat) (columnWidth : Int) : List Markup :=
  [.element "w:tblPr" []
      [value "w:tblStyle" "TableGrid", width "w:tblW" (columnWidth * count)],
    .element "w:tblGrid" [] (List.replicate count (.empty "w:gridCol" [.int "w:w" columnWidth]))]

/-- The tags in front of the rows are no others than these. -/
theorem everywhere_tableHead (count : Nat) (columnWidth : Int) :
    AllEverywhere (fun tag _ => tag ∈ tableHeadTags) (tableHead count columnWidth) := by
  have hcolumns : AllEverywhere (fun tag _ => tag ∈ tableHeadTags)
      (List.replicate count (.empty "w:gridCol" [.int "w:w" columnWidth])) :=
    allEverywhere_replicate count (.empty (by decide))
  exact allEverywhere_cons.mpr
    ⟨by simp [width, tableHeadTags], (Everywhere.element (by decide) hcolumns).singleton⟩

/-- There is an element for each column. -/
theorem find_column_tableHead (count : Nat) (columnWidth : Int) :
    find "w:gridCol" (tableHead count columnWidth)
      = List.replicate count (node "w:gridCol" [.int "w:w" columnWidth] []) := by
  -- by induction on their number
  have hcolumns : find "w:gridCol"
      (List.replicate count (.empty "w:gridCol" [.int "w:w" columnWidth]))
      = List.replicate count (node "w:gridCol" [.int "w:w" columnWidth] []) := by
    induction count with
    | zero => rfl
    | succ n ih =>
      rw [List.replicate_succ, List.replicate_succ, find_cons, find_empty_self, ih]
      rfl
  unfold tableHead
  rw [find_cons, find_element_of_ne (by decide), find_element_of_ne (by decide), hcolumns,
    find_cons, value, find_empty_of_ne (by decide), width, find_empty_of_ne (by decide)]
  rfl

/-- A table with rows is one element, with as many columns as its first row has cells. -/
theorem exists_table_eq (contentWidth : Int) (first : RowMarkup) (rest : List RowMarkup) :
    let count := max first.cells.length 1
    ∃ columnWidth, table contentWidth (first :: rest) =
      [.element "w:tbl" []
        (tableHead count columnWidth ++ (first :: rest).map (tableRow count columnWidth))] :=
  ⟨_, rfl⟩

/-- What is neither in front of the rows nor a table is found in the rows. -/
theorem find_tbl_content {tag : String} (htag : tag ∉ "w:tbl" :: tableHeadTags) (count : Nat)
    (columnWidth : Int) (rows : List RowMarkup) :
    find tag [.element "w:tbl" []
      (tableHead count columnWidth ++ rows.map (tableRow count columnWidth))]
      = rows.flatMap fun row => find tag [tableRow count columnWidth row] := by
  rw [List.mem_cons, not_or] at htag
  rw [find_element_of_ne (Ne.symm htag.1), find_append,
    (everywhere_tableHead count columnWidth).find_eq_nil fun _ => htag.2, List.nil_append, find_map]

/-! ## The blocks of an element

The tags at the top are enough to tell tables from the rest. They come one by one with the elements, so
a cell ends in the block that its last element with a block ends in. -/

/-- An element has its tag. -/
theorem haveTags_singleton (tag : String) (attributes : List Attribute) (ms : List Markup) :
    HaveTags [node tag attributes ms] [tag] :=
  .cons (hasTag_self tag attributes ms) .nil

/-- Each item is a paragraph. -/
theorem haveTags_items (p : LinkPolicy) (style : Text) (list : Int) (items : List ListItem) :
    HaveTags (viewAll (ListItem.allMarkup p style list items)) (items.map fun _ => "w:p") := by
  induction items with
  | nil => exact .nil
  | cons item items ih => exact .cons (hasTag_self "w:p" _ _) ih

/-- The blocks that are written for an element have the tags that it announces. -/
theorem haveTags_markup (p : BodyPolicy) (cell : Option Text) (next : Nat) (e : Element) :
    HaveTags (viewAll (e.markup p cell next)) e.blocks := by
  cases e with
  | bulletList items => exact haveTags_items p.links _ 1 items
  | numberedList items => exact haveTags_items p.links _ 2 items
  | table rows =>
    cases rows with
    | nil => exact .nil
    | cons row rows =>
      obtain ⟨cells, header⟩ := row
      exact haveTags_singleton "w:tbl" _ _
  | loneRun _ => exact .nil
  | loneItem _ => exact .nil
  | loneRow _ => exact .nil
  | loneCell _ => exact .nil
  | _ => exact haveTags_singleton "w:p" _ _

/-- And so have those of a sequence of elements. -/
theorem haveTags_allMarkup (p : BodyPolicy) (cell : Option Text) (next : Nat) (es : List Element) :
    HaveTags (viewAll (Element.allMarkup p cell next es)) (es.flatMap Element.blocks) := by
  induction es generalizing next with
  | nil => exact .nil
  | cons e es ih =>
    rw [Element.allMarkup, viewAll_append, List.flatMap_cons]
    exact List.rel_append (haveTags_markup p cell next e) (ih _)

/-- Nothing is written for an element without blocks, and only for such an element. -/
theorem isEmpty_markup (p : BodyPolicy) (cell : Option Text) (next : Nat) (e : Element) :
    (e.markup p cell next).isEmpty = e.blocks.isEmpty := by
  -- a list is empty if it has no items
  have hitems : ∀ (style : Text) (list : Int) (items : List ListItem),
      (ListItem.allMarkup p.links style list items).isEmpty
        = (items.map fun _ => "w:p").isEmpty := by
    intro style list items
    cases items <;> rfl
  cases e with
  | bulletList items => exact hitems _ 1 items
  | numberedList items => exact hitems _ 2 items
  | table rows =>
    cases rows with
    | nil => rfl
    | cons row rows =>
      obtain ⟨cells, header⟩ := row
      rfl
  | _ => rfl

/-- A sequence of elements is written as nothing if none of them has a block. -/
theorem isEmpty_allMarkup (p : BodyPolicy) (cell : Option Text) (next : Nat) (es : List Element) :
    (Element.allMarkup p cell next es).isEmpty = es.all fun e => e.blocks.isEmpty := by
  induction es generalizing next with
  | nil => rfl
  | cons e es ih =>
    rw [Element.allMarkup, List.all_cons, ← isEmpty_markup p cell next, ← ih (next + e.imageCount)]
    cases e.markup p cell next <;> rfl

/-- What is no frame of the body is found among the elements. -/
theorem find_documentMarkup_of_ne {tag : String}
    (htag : ∀ t ∈ frameTags.map (·.1), t ≠ tag) (p : BodyPolicy) (size : PageSize)
    (margins : PageMargins) (es : List Element) :
    find tag [documentMarkup p size margins es] = find tag (Element.allMarkup p none 1 es) := by
  simp only [frameTags, List.map_cons, List.forall_mem_cons] at htag
  obtain ⟨hdocument, hbody, hsection, hsize, hmargins, -⟩ := htag
  unfold documentMarkup sectionMarkup
  rw [find_element_of_ne hdocument, find_element_of_ne hbody, find_append,
    find_element_of_ne hsection, find_cons, find_empty_of_ne hsize, find_empty_of_ne hmargins,
    List.append_nil, List.append_nil]

end Markup

end Wordsmith
