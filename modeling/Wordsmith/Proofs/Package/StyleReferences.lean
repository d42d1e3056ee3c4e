import Wordsmith.Proofs.Package.RunTags
import Wordsmith.Proofs.Package.StyleDefinitions

/-!
# References to styles

The body refers to styles by name, in paragraphs, runs and tables. Whatever the elements are, each
name is that of a style that is defined, of the type that stands at this place
(`styleResolves_documentMarkup`). Of the content of a paragraph a little more is said: it holds
neither another paragraph nor properties of one (`InParagraph`).

* `StyleResolves` — what one tag has to satisfy, stated of its attributes as they are written.
* `isParagraph_heading` and its likes — each kind of paragraph names its own style.
* `styleResolves_elements` — the walk over the elements, which only has to know what paragraphs, cells
  and tables name.
-/

namespace Wordsmith

open Xml Markup

namespace Markup

/-! ## References

Three tags refer to styles, and each of them to styles of one type. All other tags are free
(`styleResolves_of_other`), so that a piece of markup without references resolves by the list of its
tags. -/

/-- The tags that refer to styles, each with the type of the styles that it refers to. -/
def referenceTypes : List (String × String) :=
  [("w:pStyle", "paragraph"), ("w:rStyle", "character"), ("w:tblStyle", "table")]

/-- A tag that refers to a style refers to one that is defined, and of the right type. -/
def StyleResolves (tag : String) (attributes : List Attribute) : Prop :=
  ∀ type, (tag, type) ∈ referenceTypes →
    ∃ id, attributes = [⟨"w:val", id⟩] ∧ (id, type) ∈ Style.defined

/-- What may stand in a paragraph: neither a paragraph nor the properties of one, and references to
styles only if they resolve. -/
def InParagraph (tag : String) (attributes : List Attribute) : Prop :=
  tag ≠ "w:p" ∧ tag ≠ "w:pPr" ∧ StyleResolves tag attributes

/-- In particular, references in a paragraph resolve. -/
theorem InParagraph.styleResolves {tag : String} {attributes : List Attribute}
    (h : InParagraph tag attributes) : StyleResolves tag attributes :=
  h.2.2

/-- Any other tag may have any attributes. -/
theorem styleResolves_of_other {tag : String} (h : ∀ e ∈ referenceTypes, e.1 ≠ tag)
    (attributes : List Attribute) : StyleResolves tag attributes :=
  fun _ htag => absurd rfl (h _ htag)

/-- A tag that is neither that of a paragraph nor a reference may stand in a paragraph. -/
theorem inParagraph_of_other {tag : String}
    (h : tag ≠ "w:p" ∧ tag ≠ "w:pPr" ∧ ∀ e ∈ referenceTypes, e.1 ≠ tag)
    (attributes : List Attribute) : InParagraph tag attributes :=
  ⟨h.1, h.2.1, styleResolves_of_other h.2.2 attributes⟩

/-- A reference to a style that is defined, of the type of the tag, resolves. -/
theorem styleResolves_of_mem {tag type : String} {id : Text} (htag : (tag, type) ∈ referenceTypes)
    (hid : (id, type) ∈ Style.defined) : StyleResolves tag [⟨"w:val", id⟩] := by
  intro type' htype'
  -- each tag refers to one type
  have hunique : ∀ x ∈ referenceTypes, ∀ y ∈ referenceTypes, x.1 = y.1 → x.2 = y.2 := by decide
  obtain rfl : type' = type := hunique _ htype' _ htag rfl
  exact ⟨id, rfl, hid⟩

/-- A reference that resolves has the identifier of a style as its value. -/
theorem StyleResolves.exists_mem {tag type : String} {attributes : List Attribute}
    (h : StyleResolves tag attributes) (htag : (tag, type) ∈ referenceTypes) :
    ∃ id, written? "w:val" attributes = some id ∧ (id, type) ∈ Style.defined := by
  obtain ⟨id, rfl, hid⟩ := h type htag
  exact ⟨id, by simp [Style.unescape_of_mem_defined _ hid], hid⟩

/-- A reference to a style of paragraphs that is defined. -/
theorem inParagraph_styleReference {id : Text} (hid : (id, "paragraph") ∈ Style.defined) :
    Everywhere InParagraph (styleReference id) :=
  everywhere_value.mpr
    ⟨by decide, by decide, styleResolves_of_mem (by simp [referenceTypes]) hid⟩

/-- The reference that runs of code have. -/
theorem inParagraph_codeReference : Everywhere InParagraph (value "w:rStyle" "Code") := by
  have hcode : (Text.ofString "Code", "character") ∈ Style.defined := by decide
  exact everywhere_value.mpr
    ⟨by decide, by decide, styleResolves_of_mem (by simp [referenceTypes]) hcode⟩

/-- The text of a run refers to nothing. -/
theorem inParagraph_runText (t : Text) : Everywhere InParagraph (runText t) := by
  simp [runText, InParagraph, StyleResolves, referenceTypes]

end Markup

/-- Runs may stand in a paragraph, however they are grouped into links. -/
theorem Run.inParagraph_allMarkup {p : LinkPolicy} (runs : List Run) :
    AllEverywhere InParagraph (allMarkup p runs) := by
  have htags : ∀ tag ∈ tags, tag ≠ "w:p" ∧ tag ≠ "w:pPr" ∧ ∀ e ∈ referenceTypes, e.1 ≠ tag := by
    decide
  exact allEverywhere_allMarkup (fun tag htag => inParagraph_of_other (htags tag htag))
    (everywhere_value.mp inParagraph_codeReference) runs

/-! ## Paragraphs

What is written for an element is a sequence of paragraphs and tables, and most paragraphs have a
style. -/

namespace Markup

/-- The style that the properties of a paragraph refer to. -/
def referredStyle? (properties : List Markup) : Option Text :=
  (pick "w:pStyle" properties).bind (·.attribute? "w:val")

/-- The markup is a paragraph that refers to this style, or to none. -/
def IsParagraph (style : Option Text) (m : Markup) : Prop :=
  ∃ properties content, m = paragraph properties content ∧
    AllEverywhere InParagraph properties ∧ AllEverywhere InParagraph content ∧
    referredStyle? properties = style

/-- All references in such a paragraph resolve. -/
theorem IsParagraph.styleResolves {style : Option Text} {m : Markup} (h : IsParagraph style m) :
    Everywhere StyleResolves m := by
  obtain ⟨properties, content, rfl, hproperties, hcontent, -⟩ := h
  unfold paragraph
  refine .element (styleResolves_of_other (by decide) _)
    (allEverywhere_append.mpr ⟨?_, hcontent.mono fun _ _ => InParagraph.styleResolves⟩)
  -- without properties there is no element for them
  split
  · exact allEverywhere_nil
  · exact (Everywhere.element (styleResolves_of_other (by decide) _)
      (hproperties.mono fun _ _ => InParagraph.styleResolves)).singleton

/-- A paragraph whose properties begin with the name of a style refers to that style. -/
theorem isParagraph_styled {style : Text} (hstyle : (style, "paragraph") ∈ Style.defined)
    {properties content : List Markup} (hproperties : AllEverywhere InParagraph properties)
    (hcontent : AllEverywhere InParagraph content) :
    IsParagraph (some style) (paragraph (styleReference style :: properties) content) := by
  refine ⟨_, _, rfl, allEverywhere_cons.mpr ⟨inParagraph_styleReference hstyle, hproperties⟩,
    hcontent, ?_⟩
  simp [referredStyle?, styleReference, Style.unescape_of_mem_defined _ hstyle]

/-- The identifier of the style for a slot is among those that are defined. -/
theorem styleId_mem (slot : HeadingSlot) : (slot.styleId, "paragraph") ∈ Style.defined := by
  cases slot <;> decide

/-- The styles of cells are defined, that of headers and the other one. -/
theorem cellStyle_mem (header : Bool) : (cellStyle header, "paragraph") ∈ Style.defined := by
  cases header <;> decide

/-- A heading refers to the style of its level. -/
theorem isParagraph_heading (level : Int) (text : Text) :
    IsParagraph (some (HeadingSlot.ofLevel level).styleId) (heading level text) := by
  refine isParagraph_styled (styleId_mem _) allEverywhere_nil ?_
  simp [inParagraph_runText, InParagraph, StyleResolves, referenceTypes]

/-- A code block refers to its style, and its run to the style of code. -/
theorem isParagraph_codeBlock (code : Text) :
    IsParagraph (some (Text.ofString "CodeBlock")) (codeBlock code) := by
  have hid : (Text.ofString "CodeBlock", "paragraph") ∈ Style.defined := by decide
  refine isParagraph_styled hid allEverywhere_nil ?_
  simp only [allEverywhere_cons, everywhere_element, inParagraph_codeReference, inParagraph_runText]
  simp [InParagraph, StyleResolves, referenceTypes]

/-- An item of a list refers to the style of the list. -/
theorem isParagraph_item (p : LinkPolicy) {style : Text}
    (hstyle : (style, "paragraph") ∈ Style.defined) (list : Int) (item : ListItem) :
    IsParagraph (some style)
      (paragraph (itemProperties style list item.level) (Run.allMarkup p item.runs)) := by
  refine isParagraph_styled hstyle ?_ (Run.inParagraph_allMarkup item.runs)
  simp [InParagraph, StyleResolves, referenceTypes]

/-- A rule has a border of its own and no style. -/
theorem isParagraph_horizontalRule : IsParagraph none horizontalRule := by
  refine ⟨_, _, rfl, ?_, allEverywhere_nil, ?_⟩
  · simp [InParagraph, StyleResolves, referenceTypes]
  · simp [referredStyle?]

/-- The paragraph of an image has no properties. -/
theorem isParagraph_image (number : Nat) (altText : Text) :
    IsParagraph none (image number altText) := by
  refine ⟨[], _, rfl, allEverywhere_nil, ?_, rfl⟩
  simp [InParagraph, StyleResolves, referenceTypes]

/-! ## Tables

A table refers to the style of all tables, and its cells to whatever their content refers to. -/

/-- A cell adds no reference to those in it. -/
theorem styleResolves_tableCell (columnWidth : Int) {content : List Markup}
    (h : AllEverywhere StyleResolves content) :
    Everywhere StyleResolves (tableCell columnWidth content) := by
  have hproperties : Everywhere StyleResolves
      (.element "w:tcPr" [] [width "w:tcW" columnWidth]) := by
    simp [width, StyleResolves, referenceTypes]
  refine .element (styleResolves_of_other (by decide) _)
    (allEverywhere_cons.mpr ⟨hproperties, ?_⟩)
  split
  · exact (Everywhere.empty (styleResolves_of_other (by decide) _)).singleton
  · exact h

/-- Neither does a row, nor the empty cells that fill it up. -/
theorem styleResolves_tableRow (count : Nat) (columnWidth : Int) {row : RowMarkup}
    (h : ∀ content ∈ row.cells, AllEverywhere StyleResolves content) :
    Everywhere StyleResolves (tableRow count columnWidth row) := by
  have hheader : AllEverywhere StyleResolves
      (if row.header then [.element "w:trPr" [] [.empty "w:tblHeader" []]] else []) :=
    allEverywhere_if (by simp [StyleResolves, referenceTypes])
  refine .element (styleResolves_of_other (by decide) _)
    (allEverywhere_append.mpr ⟨hheader, allEverywhere_map.mpr fun content hcontent => ?_⟩)
  apply styleResolves_tableCell
  rcases List.mem_append.mp hcontent with hcell | hpadding
  · exact h content hcell
  · rw [List.eq_of_mem_replicate hpadding]
    exact allEverywhere_nil

/-- A table refers to one style of tables. -/
theorem styleResolves_table (contentWidth : Int) {rows : List RowMarkup}
    (h : ∀ row ∈ rows, ∀ content ∈ row.cells, AllEverywhere StyleResolves content) :
    AllEverywhere StyleResolves (table contentWidth rows) := by
  have hgrid : StyleResolves "w:tblStyle" [⟨"w:val", Text.ofString "TableGrid"⟩] := by
    have hid : (Text.ofString "TableGrid", "table") ∈ Style.defined := by decide
    exact styleResolves_of_mem (by simp [referenceTypes]) hid
  have hcolumn : ∀ (count : Nat) (attributes : List Attribute),
      AllEverywhere StyleResolves (List.replicate count (.empty "w:gridCol" attributes)) :=
    fun count _ => allEverywhere_replicate count (.empty (styleResolves_of_other (by decide) _))
  have hrows : ∀ (count : Nat) (columnWidth : Int),
      AllEverywhere StyleResolves (rows.map (tableRow count columnWidth)) := by
    intro count columnWidth
    exact allEverywhere_map.mpr fun row hrow =>
      styleResolves_tableRow count columnWidth (h row hrow)
  -- without rows nothing is written
  cases rows with
  | nil => exact allEverywhere_nil
  | cons first rest =>
    refine (Everywhere.element (styleResolves_of_other (by decide) _)
      (allEverywhere_append.mpr ⟨?_, hrows _ _⟩)).singleton
    simp only [allEverywhere_cons, everywhere_element, everywhere_value, hgrid, hcolumn]
    simp [width, StyleResolves, referenceTypes]

/-- The section at the end refers to no style. -/
theorem styleResolves_section (size : PageSize) (margins : PageMargins) :
    Everywhere StyleResolves (sectionMarkup size margins) := by
  unfold sectionMarkup
  simp [StyleResolves, referenceTypes]

end Markup

/-! ## The body

The walk of the writer, one lemma for each of its functions. Only the styles of paragraphs in cells
are handed down, and they are defined. -/

section Elements

/-- A paragraph of runs has the style of the cell that it stands in, and none outside of tables. -/
theorem isParagraph_runs (p : LinkPolicy) {cell : Option Text}
    (hcell : ∀ style ∈ cell, (style, "paragraph") ∈ Style.defined) (runs : List Run) :
    IsParagraph cell
      (paragraph (cell.toList.map fun style => styleReference style) (Run.allMarkup p runs)) := by
  cases cell with
  | none => exact ⟨[], _, rfl, allEverywhere_nil, Run.inParagraph_allMarkup runs, rfl⟩
  | some style =>
    exact isParagraph_styled (hcell style rfl) allEverywhere_nil (Run.inParagraph_allMarkup runs)

/-- A quote refers to its style. -/
theorem isParagraph_quote (p : LinkPolicy) (runs : List Run) :
    IsParagraph (some (Text.ofString "Quote"))
      (paragraph [styleReference "Quote"] (Run.allMarkup p runs)) := by
  have hid : (Text.ofString "Quote", "paragraph") ∈ Style.defined := by decide
  exact isParagraph_styled hid allEverywhere_nil (Run.inParagraph_allMarkup runs)

/-- The items of a list refer to one style. -/
theorem styleResolves_items (p : LinkPolicy) {style : Text}
    (hstyle : (style, "paragraph") ∈ Style.defined) (list : Int) (items : List ListItem) :
    AllEverywhere StyleResolves (ListItem.allMarkup p style list items) :=
  allEverywhere_map.mpr fun item _ => (isParagraph_item p hstyle list item).styleResolves

mutual

/-- Each element refers to styles that are defined, if the cell around it does. -/
theorem styleResolves_element (p : BodyPolicy) {cell : Option Text}
    (hcell : ∀ style ∈ cell, (style, "paragraph") ∈ Style.defined) (next : Nat) (e : Element) :
    AllEverywhere StyleResolves (e.markup p cell next) := by
  -- all elements but lists and tables are one paragraph
  have hparagraph : ∀ {style : Option Text} {m : Markup}, IsParagraph style m →
      AllEverywhere StyleResolves [m] :=
    fun h => h.styleResolves.singleton
  cases e with
  | heading level text => exact hparagraph (isParagraph_heading level text)
  | paragraph runs => exact hparagraph (isParagraph_runs p.links hcell runs)
  | quote runs => exact hparagraph (isParagraph_quote p.links runs)
  | bulletList items =>
    have hid : (Text.ofString "ListBullet", "paragraph") ∈ Style.defined := by decide
    exact styleResolves_items p.links hid 1 items
  | numberedList items =>
    have hid : (Text.ofString "ListNumber", "paragraph") ∈ Style.defined := by decide
    exact styleResolves_items p.links hid 2 items
  | codeBlock language code => exact hparagraph (isParagraph_codeBlock code)
  | table rows => exact styleResolves_table p.contentWidth (styleResolves_rows p next rows)
  | horizontalRule => exact hparagraph isParagraph_horizontalRule
  | image altText source => exact hparagraph (isParagraph_image next altText)
  | loneRun _ => exact allEverywhere_nil
  | loneItem _ => exact allEverywhere_nil
  | loneRow _ => exact allEverywhere_nil
  | loneCell _ => exact allEverywhere_nil

/-- The cells of all rows: a header row has another style than the rest. -/
theorem styleResolves_rows (p : BodyPolicy) (next : Nat) (rows : List Row) :
    ∀ row ∈ Row.allMarkup p next rows, ∀ content ∈ row.cells,
      AllEverywhere StyleResolves content := by
  cases rows with
  | nil => exact nofun
  | cons row rows =>
    obtain ⟨cells, header⟩ := row
    exact List.forall_mem_cons.mpr
      ⟨styleResolves_cells p (cellStyle_mem header) next cells, styleResolves_rows p _ rows⟩

/-- The cells of a row share their style. -/
theorem styleResolves_cells (p : BodyPolicy) {style : Text}
    (hstyle : (style, "paragraph") ∈ Style.defined) (next : Nat) (cells : List Cell) :
    ∀ content ∈ Cell.allMarkup p style next cells, AllEverywhere StyleResolves content := by
  cases cells with
  | nil => exact nofun
  | cons cell cells =>
    obtain ⟨content⟩ := cell
    have hcell : ∀ style' ∈ some style, (style', "paragraph") ∈ Style.defined :=
      fun style' hmem => Option.mem_some_iff.mp hmem ▸ hstyle
    exact List.forall_mem_cons.mpr
      ⟨styleResolves_elements p hcell next content, styleResolves_cells p hstyle _ cells⟩

/-- A sequence of elements. -/
theorem styleResolves_elements (p : BodyPolicy) {cell : Option Text}
    (hcell : ∀ style ∈ cell, (style, "paragraph") ∈ Style.defined) (next : Nat)
    (es : List Element) : AllEverywhere StyleResolves (Element.allMarkup p cell next es) := by
  cases es with
  | nil => exact allEverywhere_nil
  | cons e es =>
    exact allEverywhere_append.mpr
      ⟨styleResolves_element p hcell next e, styleResolves_elements p hcell _ es⟩

end

/-- Every reference to a style in the document part resolves. -/
theorem styleResolves_documentMarkup (p : BodyPolicy) (size : PageSize) (margins : PageMargins)
    (es : List Element) : Everywhere StyleResolves (documentMarkup p size margins es) := by
  have hbody : AllEverywhere StyleResolves (Element.allMarkup p none 1 es) :=
    styleResolves_elements p (by simp) 1 es
  unfold documentMarkup
  simp only [everywhere_element, allEverywhere_cons, allEverywhere_append, hbody,
    styleResolves_section]
  simp [StyleResolves, referenceTypes]

end Elements

end Wordsmith
