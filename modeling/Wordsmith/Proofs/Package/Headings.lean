import Wordsmith.Proofs.Package.StyleReading
import Wordsmith.Proofs.Package.StyleReferences
import Wordsmith.Proofs.Package.Texts

/-!
# Headings

Which paragraphs of a document are headings, a reader learns from both parts: a paragraph refers to
a style, and the style is one of headings if it has an outline level (`Xml.headings`). All
references to styles resolve, and such a reader finds the headings of the document in reading order,
each with its text and with the style for its level (`Style.stylesResolve_partText`).

One thing about a style is not in the part: a distance before or after a heading that is not positive
is left out, and what is left out is read as zero. So the style that is read (`Style.headingStyle`) has
the spacing of the style for the level exactly if neither distance is negative
(`Style.spacing_headingStyle_eq_iff`), and with a negative one the spacing is lost
(`Style.headings_indrawnStyle`).

## The architecture

* `Element.allHeadings` is the walk over the elements, `Markup.headed` the reader's walk over the
  markup that is written for them.
* `IsParagraph.headed_eq` decides for one paragraph, from the style that it refers to, whether it is a
  heading; `bind_style?_plain` says that all styles but the six of headings are none.
* `headed_elements` is the induction over the elements, with one lemma for each function of the writer.
-/

namespace Wordsmith

open Xml Markup

mutual

/-- The headings of an element in reading order: their levels and their texts. -/
def Element.headings : Element → List (Int × Text)
  | .heading level content => [(level, content)]
  | .table rows => Row.allHeadings rows
  | _ => []

/-- The headings in the rows of a table. -/
def Row.allHeadings : List Row → List (Int × Text)
  | [] => []
  | ⟨cells, _⟩ :: rows => Cell.allHeadings cells ++ Row.allHeadings rows

/-- The headings in the cells of a row. -/
def Cell.allHeadings : List Cell → List (Int × Text)
  | [] => []
  | ⟨content⟩ :: cells => Element.allHeadings content ++ Cell.allHeadings cells

/-- The headings of a sequence of elements. -/
def Element.allHeadings : List Element → List (Int × Text)
  | [] => []
  | e :: es => e.headings ++ Element.allHeadings es

end

/-- The style that a paragraph refers to. -/
def Xml.paragraphStyle? (x : Xml) : Option Text :=
  (x.child? "w:pPr").bind (·.childAttribute? "w:pStyle" "w:val")

/-- A paragraph as a heading: its style, looked up among the styles, and its text. Absent if the
paragraph has no style, or one without an outline level. -/
def Xml.heading? (styles x : Xml) : Option (HeadingStyle × Text) :=
  let style? := x.paragraphStyle?.bind fun id => (styles.style? id).bind HeadingStyle.read?
  style?.map fun style => (style, (x.tagged "w:t").flatMap Xml.text)

/-- The headings of a document, in document order. -/
def Xml.headings (styles root : Xml) : List (HeadingStyle × Text) :=
  (root.tagged "w:p").filterMap (heading? styles)

/-- The style that headings of a level have in the styles part: that for the level, but that distances
below zero are zero, since the part does not carry them. Levels outside one to six count as one. -/
def Style.headingStyle (s : Style) (level : Int) : HeadingStyle :=
  let chosen := s.headings.styleFor level
  { chosen with
    level := if 1 ≤ level ∧ level ≤ 6 then level else 1
    spacing :=
      { chosen.spacing with
        before := max chosen.spacing.before 0
        after := max chosen.spacing.after 0 } }

/-- The part carries the spacing of a heading exactly if no distance is negative. -/
theorem Style.spacing_headingStyle_eq_iff (s : Style) (level : Int) :
    (s.headingStyle level).spacing = (s.headings.styleFor level).spacing ↔
      0 ≤ (s.headings.styleFor level).spacing.before ∧
        0 ≤ (s.headings.styleFor level).spacing.after := by
  constructor
  · intro heq
    have hbefore : max (s.headings.styleFor level).spacing.before 0 = _ :=
      congrArg Spacing.before heq
    have hafter : max (s.headings.styleFor level).spacing.after 0 = _ := congrArg Spacing.after heq
    omega
  · rintro ⟨hbefore, hafter⟩
    dsimp only [headingStyle]
    rw [Int.max_eq_left hbefore, Int.max_eq_left hafter]

/-- The level of the slot for a level: its own, or one if there is no slot for it. -/
theorem HeadingSlot.level_ofLevel (n : Int) :
    ((HeadingSlot.ofLevel n).level : Int) = if 1 ≤ n ∧ n ≤ 6 then n else 1 := by
  unfold ofLevel
  split
  case h_6 => grind [level]
  all_goals rfl

/-- What the part carries of the style for a level is `Style.headingStyle`. -/
theorem Style.carried_styleFor (s : Style) (level : Int) :
    (s.headings.get (.ofLevel level)).carried (.ofLevel level) = s.headingStyle level := by
  unfold HeadingStyle.carried Style.headingStyle HeadingStyles.styleFor
  rw [HeadingSlot.level_ofLevel]
  rfl

/-! ## Paragraphs

`headed` collects headings from markup as `Xml.headings` does from a document. It distributes over
sequences, passes through elements that are no paragraphs, and finds nothing where there are no
paragraphs. A paragraph is one element for it, of which only the style and the text count. -/

namespace Markup

/-- The headings among the paragraphs in a sequence of markup. -/
def headed (styles : Xml) (ms : List Markup) : List (HeadingStyle × Text) :=
  (find "w:p" ms).filterMap (heading? styles)

variable {styles : Xml}

@[simp] theorem headed_nil : headed styles [] = [] := rfl

@[simp] theorem headed_append (ms ns : List Markup) :
    headed styles (ms ++ ns) = headed styles ms ++ headed styles ns := by
  unfold headed
  rw [find_append, List.filterMap_append]

/-- The first piece of a sequence, and the rest. -/
theorem headed_cons (m : Markup) (ms : List Markup) :
    headed styles (m :: ms) = headed styles [m] ++ headed styles ms :=
  headed_append [m] ms

/-- Pieces that are written one by one. -/
theorem headed_map {α : Type} (f : α → Markup) (xs : List α) :
    headed styles (xs.map f) = xs.flatMap fun x => headed styles [f x] := by
  unfold headed
  rw [find_map, List.filterMap_flatMap]

/-- An element that is no paragraph is passed through. -/
theorem headed_element_of_ne {tag : String} (htag : tag ≠ "w:p") (attributes : List Attribute)
    (ms : List Markup) : headed styles [.element tag attributes ms] = headed styles ms := by
  unfold headed
  rw [find_element_of_ne htag]

/-- Without paragraphs there are no headings. -/
theorem headed_eq_nil {ms : List Markup} (h : AllEverywhere (fun tag _ => tag ≠ "w:p") ms) :
    headed styles ms = [] := by
  unfold headed
  rw [h.find_eq_nil fun _ hne => hne rfl, List.filterMap_nil]

/-- A paragraph is found as one element, with the style that it refers to. -/
theorem IsParagraph.exists_find {style : Option Text} {m : Markup} (h : IsParagraph style m) :
    ∃ x, find "w:p" [m] = [x] ∧ x.paragraphStyle? = style ∧ ∀ tag, x.tagged tag = find tag [m] := by
  obtain ⟨properties, content, rfl, hproperties, hcontent, rfl⟩ := h
  have hpick : pick "w:pPr" content = none := hcontent.pick_eq_none fun _ has => has.2.1 rfl
  -- paragraphs do not nest, so the paragraph is found once
  have hinside : find "w:p" ((if properties.isEmpty then [] else
      [.element "w:pPr" [] properties]) ++ content) = [] := by
    rw [find_append, hcontent.find_eq_nil fun _ has => has.1 rfl, List.append_nil]
    split
    · rfl
    · rw [find_element_of_ne (by decide), hproperties.find_eq_nil fun _ has => has.1 rfl]
  unfold paragraph
  refine ⟨node "w:p" [] _, ?_, ?_, tagged_node _ _ _⟩
  · rw [find_element_self, hinside]
    rfl
  · -- without properties there is no element around them
    cases properties <;> simp [Xml.paragraphStyle?, referredStyle?, childAttribute?, hpick]

/-- A paragraph is a heading if the style that it refers to is one of headings. -/
theorem IsParagraph.headed_eq {style : Option Text} {m : Markup} (h : IsParagraph style m) :
    headed styles [m] = ((style.bind fun id => (styles.style? id).bind HeadingStyle.read?).map
      fun heading => (heading, shownText [m])).toList := by
  obtain ⟨x, hfind, rfl, htagged⟩ := h.exists_find
  unfold headed heading? shownText
  rw [hfind, ← htagged, List.filterMap_cons, List.filterMap_nil]
  cases x.paragraphStyle?.bind fun id => (styles.style? id).bind HeadingStyle.read? <;> rfl

end Markup

/-! ## Styles that are not for headings

A style is read as one of headings only if it has an outline level, which no other writer of styles
gives. So the six `plainStyles` that other paragraphs refer to are read as none. -/

namespace Style

variable (s : Style)

/-- A style without an outline level is not one of headings. -/
theorem readsAs_none {type : String} {id : Text} (hid : id.unescape = id) {ms : List Markup}
    (h : (pick "w:pPr" ms).bind (·.child? "w:outlineLvl") = none) :
    (styleDefinition type id ms).ReadsAs HeadingStyle.read? id none := by
  refine ⟨_, view_element _ _ _, styleId?_styleDefinition hid _, ?_⟩
  unfold HeadingStyle.read? childNumber? childAttribute?
  rw [child?_node]
  cases hproperties : pick "w:pPr" ms with
  | none => cases Font.read? _ <;> rfl
  | some properties =>
    rw [hproperties, Option.bind_some] at h
    simp [h]

/-- Code blocks have no outline level. -/
theorem readsAs_none_codeBlock :
    s.codeBlocks.markup.ReadsAs HeadingStyle.read? "CodeBlock" none :=
  readsAs_none (by decide) (by simp)

/-- Neither have quotes. -/
theorem readsAs_none_quote : s.quotes.markup.ReadsAs HeadingStyle.read? "Quote" none :=
  readsAs_none (by decide) (by simp)

/-- Nor have the items of lists. -/
theorem readsAs_none_lists : ∃ bullet numbered, s.lists.markup = [bullet, numbered] ∧
    bullet.ReadsAs HeadingStyle.read? "ListBullet" none ∧
    numbered.ReadsAs HeadingStyle.read? "ListNumber" none :=
  ⟨_, _, rfl, readsAs_none (by decide) (by simp), readsAs_none (by decide) (by simp)⟩

/-- Nor have the cells of tables. -/
theorem readsAs_none_cells : ∃ header body, s.tables.cellMarkup = [header, body] ∧
    header.ReadsAs HeadingStyle.read? (cellStyle true) none ∧
    body.ReadsAs HeadingStyle.read? (cellStyle false) none :=
  ⟨_, _, rfl, readsAs_none (by decide) (by simp [Font.markup]),
    readsAs_none (by decide) (by simp [Font.markup])⟩

/-- The styles of paragraphs that are not headings. -/
def plainStyles : List Text :=
  ["CodeBlock", "Quote", "ListBullet", "ListNumber", cellStyle true, cellStyle false]

/-- All of them are defined. -/
theorem plainStyles_defined : ∀ id ∈ plainStyles, (id, "paragraph") ∈ defined := by decide

/-- The styles of cells are among them. -/
theorem cellStyle_plain (header : Bool) : cellStyle header ∈ plainStyles := by
  cases header <;> decide

/-- A reader finds no heading style under any of these names. -/
theorem bind_style?_plain {id : Text} (hid : id ∈ plainStyles) :
    (s.root.style? id).bind HeadingStyle.read? = none := by
  obtain ⟨bullet, numbered, hlists, hbullet, hnumbered⟩ := s.readsAs_none_lists
  obtain ⟨header, body, hcells, hheader, hbody⟩ := s.readsAs_none_cells
  simp only [plainStyles, List.mem_cons, List.not_mem_nil, or_false] at hid
  rcases hid with rfl | rfl | rfl | rfl | rfl | rfl
  · exact s.bind_style?_root (by simp [definitions]) s.readsAs_none_codeBlock
  · exact s.bind_style?_root (by simp [definitions]) s.readsAs_none_quote
  · exact s.bind_style?_root (by simp [definitions, hlists]) hbullet
  · exact s.bind_style?_root (by simp [definitions, hlists]) hnumbered
  · exact s.bind_style?_root (by simp [definitions, hcells]) hheader
  · exact s.bind_style?_root (by simp [definitions, hcells]) hbody

end Style

/-! ## Tables

What is around the paragraphs in a table holds no heading, and neither do the cells that fill up a
row. -/

namespace Markup

variable {styles : Xml}

/-- A cell has the headings of its content. -/
theorem headed_tableCell (columnWidth : Int) (content : List Markup) :
    headed styles [tableCell columnWidth content] = headed styles content := by
  have hproperties : headed styles [.element "w:tcPr" [] [width "w:tcW" columnWidth]] = [] :=
    headed_eq_nil (by simp [width])
  unfold tableCell
  rw [headed_element_of_ne (by decide), headed_cons, hproperties, List.nil_append]
  cases content with
  | nil =>
    -- the paragraph that ends an empty cell has no properties
    unfold headed
    rw [List.isEmpty_nil, if_pos rfl, find_empty_self]
    rfl
  | cons m ms => rfl

/-- A row has those of its cells, and what fills it up has none. -/
theorem headed_tableRow (count : Nat) (columnWidth : Int) (row : RowMarkup) :
    headed styles [tableRow count columnWidth row] = row.cells.flatMap (headed styles) := by
  have hheader : headed styles
      (if row.header then [.element "w:trPr" [] [.empty "w:tblHeader" []]] else []) = [] :=
    headed_eq_nil (allEverywhere_if (by simp))
  have hpadding : ∀ content ∈ List.replicate (count - row.cells.length) ([] : List Markup),
      headed styles content = [] := by
    intro content hcontent
    rw [List.eq_of_mem_replicate hcontent]
    rfl
  unfold tableRow
  rw [headed_element_of_ne (by decide), headed_append, hheader, List.nil_append, headed_map]
  simp only [headed_tableCell]
  rw [List.flatMap_append, List.flatMap_eq_nil_iff.mpr hpadding, List.append_nil]

/-- A table has those of its rows. -/
theorem headed_table (contentWidth : Int) (rows : List RowMarkup) :
    headed styles (table contentWidth rows)
      = rows.flatMap fun row => row.cells.flatMap (headed styles) := by
  cases rows with
  | nil => rfl
  | cons first rest =>
    -- neither the style nor the grid holds a paragraph
    have hproperties : ∀ (count : Nat) (columnWidth total : Int), headed styles
        [.element "w:tblPr" [] [value "w:tblStyle" "TableGrid", width "w:tblW" total],
          .element "w:tblGrid" []
            (List.replicate count (.empty "w:gridCol" [.int "w:w" columnWidth]))] = [] := by
      intro count columnWidth total
      have hcolumns : AllEverywhere (fun tag _ => tag ≠ "w:p")
          (List.replicate count (.empty "w:gridCol" [.int "w:w" columnWidth])) :=
        allEverywhere_replicate count (by simp)
      exact headed_eq_nil (by simp [width, hcolumns])
    show headed styles [element "w:tbl" []
      ([element "w:tblPr" [] _, element "w:tblGrid" [] _] ++
        (first :: rest).map (tableRow _ _))] = _
    rw [headed_element_of_ne (by decide), headed_append, hproperties, List.nil_append, headed_map]
    simp only [headed_tableRow]

end Markup

/-! ## The body

The walk of the writer, one lemma for each of its functions: what is found in the markup of an element
is what the walk `Element.headings` finds in it. Paragraphs in cells refer to the style of the cell,
which is handed down as `cell` and is never one of headings. -/

namespace Style

variable (s : Style)

/-- A heading as it is read back. -/
def readHeading (h : Int × Text) : HeadingStyle × Text := (s.headingStyle h.1, h.2.strip)

/-- A paragraph with another style, or with none, is no heading. -/
theorem headed_plain {style : Option Text} (hstyle : ∀ id ∈ style, id ∈ plainStyles) {m : Markup}
    (h : IsParagraph style m) : headed s.root [m] = [] := by
  rw [h.headed_eq]
  cases style with
  | none => rfl
  | some id => rw [Option.bind_some, s.bind_style?_plain (hstyle id rfl)]; rfl

/-- No item of a list is a heading. -/
theorem headed_items (p : LinkPolicy) {style : Text} (hstyle : style ∈ plainStyles) (list : Int)
    (items : List ListItem) : headed s.root (ListItem.allMarkup p style list items) = [] := by
  unfold ListItem.allMarkup
  rw [headed_map]
  refine List.flatMap_eq_nil_iff.mpr fun item _ => s.headed_plain
    (fun id hmem => Option.mem_some_iff.mp hmem ▸ hstyle)
    (isParagraph_item p (plainStyles_defined style hstyle) list item)

/-- A heading is found with the style for its level. -/
theorem headed_heading {s : Style} (hcolors : ∀ t ∈ s.styleColors, t.unescape = t)
    (level : Int) (text : Text) :
    headed s.root [heading level text] = [s.readHeading (level, text)] := by
  have htext : shownText [heading level text] = text.strip := by
    rw [← shownText_runText]
    unfold shownText
    rw [find_heading (by decide)]
  rw [(isParagraph_heading level text).headed_eq, Option.bind_some, read?_heading hcolors,
    s.carried_styleFor, htext]
  rfl

mutual

/-- What is found for one element. -/
theorem headed_element {s : Style} (hcolors : ∀ t ∈ s.styleColors, t.unescape = t)
    (p : BodyPolicy) {cell : Option Text}
    (hcell : ∀ style ∈ cell, style ∈ plainStyles) (next : Nat) (e : Element) :
    headed s.root (e.markup p cell next) = e.headings.map s.readHeading := by
  cases e with
  | heading level text => exact headed_heading hcolors level text
  | paragraph runs =>
    exact s.headed_plain hcell
      (isParagraph_runs p.links (fun style h => plainStyles_defined style (hcell style h)) runs)
  | quote runs => exact s.headed_plain (by decide) (isParagraph_quote p.links runs)
  | bulletList items => exact s.headed_items p.links (by decide) 1 items
  | numberedList items => exact s.headed_items p.links (by decide) 2 items
  | codeBlock language code => exact s.headed_plain (by decide) (isParagraph_codeBlock code)
  | table rows =>
    -- the headings in a table are those of its cells, in order
    rw [Element.markup, headed_table]
    exact headed_rows hcolors p next rows
  | horizontalRule => exact s.headed_plain (by simp) isParagraph_horizontalRule
  | image altText source => exact s.headed_plain (by simp) (isParagraph_image next altText)
  | loneRun _ => rfl
  | loneItem _ => rfl
  | loneRow _ => rfl
  | loneCell _ => rfl

/-- For the rows of a table. -/
theorem headed_rows {s : Style} (hcolors : ∀ t ∈ s.styleColors, t.unescape = t)
    (p : BodyPolicy) (next : Nat) (rows : List Row) :
    ((Row.allMarkup p next rows).flatMap fun row => row.cells.flatMap (headed s.root))
      = (Row.allHeadings rows).map s.readHeading := by
  cases rows with
  | nil => rfl
  | cons row rows =>
    obtain ⟨cells, header⟩ := row
    rw [Row.allMarkup, Row.allHeadings, List.flatMap_cons, List.map_append,
      headed_cells hcolors p (cellStyle_plain header) next cells, headed_rows hcolors p _ rows]

/-- For the cells of a row. -/
theorem headed_cells {s : Style} (hcolors : ∀ t ∈ s.styleColors, t.unescape = t)
    (p : BodyPolicy) {style : Text} (hstyle : style ∈ plainStyles) (next : Nat)
    (cells : List Cell) : (Cell.allMarkup p style next cells).flatMap (headed s.root)
      = (Cell.allHeadings cells).map s.readHeading := by
  cases cells with
  | nil => rfl
  | cons cell cells =>
    obtain ⟨content⟩ := cell
    have hcell : ∀ id ∈ some style, id ∈ plainStyles :=
      fun id hmem => Option.mem_some_iff.mp hmem ▸ hstyle
    rw [Cell.allMarkup, Cell.allHeadings, List.flatMap_cons, List.map_append,
      headed_elements hcolors p hcell next content, headed_cells hcolors p hstyle _ cells]

/-- For a sequence of elements. -/
theorem headed_elements {s : Style} (hcolors : ∀ t ∈ s.styleColors, t.unescape = t)
    (p : BodyPolicy) {cell : Option Text}
    (hcell : ∀ style ∈ cell, style ∈ plainStyles) (next : Nat) (es : List Element) :
    headed s.root (Element.allMarkup p cell next es)
      = (Element.allHeadings es).map s.readHeading := by
  cases es with
  | nil => rfl
  | cons e es =>
    rw [Element.allMarkup, Element.allHeadings, headed_append, List.map_append,
      headed_element hcolors p hcell next e, headed_elements hcolors p hcell _ es]

end

/-- The headings in the document part are those of the elements, in reading order. -/
theorem headed_documentMarkup {s : Style} (hcolors : ∀ t ∈ s.styleColors, t.unescape = t)
    (p : BodyPolicy) (size : PageSize) (margins : PageMargins)
    (es : List Element) : headed s.root [documentMarkup p size margins es]
      = (Element.allHeadings es).map s.readHeading := by
  have hsection : headed s.root [sectionMarkup size margins] = [] := by
    unfold sectionMarkup
    exact headed_eq_nil (by simp)
  unfold documentMarkup
  rw [headed_element_of_ne (by decide), headed_element_of_ne (by decide), headed_append, hsection,
    List.append_nil, headed_elements hcolors p (by simp) 1 es]

end Style

/-! ## Both parts

The styles part is read as `Style.root`, whatever the elements are, and of the document part only the
elements with a given tag matter. What `StylesResolve` asks of the two is therefore said of the markup
of the body (`stylesResolve_root`), and carried over to the texts at the end. -/

/-- The references to styles in the parts of a document resolve. -/
structure Xml.StylesResolve (styles root : Xml) : Prop where
  /-- No identifier is used twice. -/
  nodup : ((styles.tagged "w:style").filterMap (·.attribute? "w:styleId")).Nodup
  /-- The document refers to styles that are there, and of the right type. -/
  references : ∀ tag type, (tag, type) ∈ referenceTypes → ∀ x ∈ root.tagged tag,
    ∃ id, x.attribute? "w:val" = some id ∧ ∃ style ∈ styles.tagged "w:style",
      style.attribute? "w:styleId" = some id ∧
        style.attribute? "w:type" = some (Text.ofString type)
  /-- Styles refer to styles that are there. -/
  definitions : ∀ tag ∈ ["w:basedOn", "w:next"], ∀ x ∈ styles.tagged tag,
    ∃ id, x.attribute? "w:val" = some id ∧ ∃ style ∈ styles.tagged "w:style",
      style.attribute? "w:styleId" = some id

namespace Style

variable (s : Style)

/-- Whatever the elements are, their references resolve among the styles of the part. -/
theorem stylesResolve_root {root : Xml} (p : BodyPolicy) (size : PageSize) (margins : PageMargins)
    (es : List Element)
    (htagged : ∀ tag, root.tagged tag = find tag [documentMarkup p size margins es]) :
    StylesResolve s.root root where
  nodup := s.styleIds_root ▸ nodup_defined
  references := by
    intro tag type htag x hx
    rw [htagged] at hx
    obtain ⟨attributes, ms, hresolves, rfl⟩ :=
      (styleResolves_documentMarkup p size margins es).of_mem_find hx
    obtain ⟨id, hid, hdefined⟩ := hresolves.exists_mem htag
    exact ⟨id, hid, s.exists_style hdefined⟩
  definitions := by
    intro tag htag x hx
    -- styles name the style that follows and the one they are based on
    have hmem : tag ∈ ["w:style", "w:basedOn", "w:next"] := List.mem_cons_of_mem _ htag
    have hnormal : (Text.ofString "Normal", "paragraph") ∈ defined := by decide
    rw [s.tagged_root hmem] at hx
    obtain ⟨style, hstyle, hid, -⟩ := s.exists_style hnormal
    exact ⟨_, s.areDefined_definitions.reference htag hx, style, hstyle, hid⟩

/-- A reader finds the headings of the elements, each with the style that the part has for it. -/
theorem headings_root {root : Xml} {es : List Element}
    (hcolors : ∀ t ∈ s.styleColors, ∀ c ∈ t, c ≠ '<' ∧ c ≠ '&' ∧ c ≠ '"')
    (p : BodyPolicy) (size : PageSize) (margins : PageMargins)
    (htagged : ∀ tag, root.tagged tag = find tag [documentMarkup p size margins es]) :
    Xml.headings s.root root = (Element.allHeadings es).map s.readHeading := by
  have hunescaped : ∀ t ∈ s.styleColors, t.unescape = t := fun t ht => unescape_self (hcolors t ht)
  unfold Xml.headings
  rw [htagged]
  exact headed_documentMarkup hunescaped p size margins es

/-- **References to styles.** In the parts of a document all references to styles resolve, and a
reader finds the headings of the document, each with the style for its level. That style has the font
and the flags that are chosen for the level, and its spacing if no distance is negative. -/
theorem stylesResolve_partText (es : List Element)
    (hnames : ∀ font ∈ s.fonts, ∀ c ∈ font.name, c.isXmlChar = true)
    (hcolors : ∀ t ∈ s.linkColor :: s.styleColors, ∀ c ∈ t, c ≠ '<' ∧ c ≠ '&' ∧ c ≠ '"') :
    (∃ styles root, Xml.read? (s.partText es .styles) = some styles ∧
      Xml.read? (s.partText es .document) = some root ∧ StylesResolve styles root ∧
      Xml.headings styles root = (Element.allHeadings es).map fun (level, words) =>
        (s.headingStyle level, words.strip)) ∧
      ∀ level, (s.headingStyle level).spacing = (s.headings.styleFor level).spacing ↔
        0 ≤ (s.headings.styleFor level).spacing.before ∧
          0 ≤ (s.headings.styleFor level).spacing.after := by
  rw [List.forall_mem_cons] at hcolors
  obtain ⟨root, hroot, htagged⟩ := s.exists_read?_document es hcolors.1
  refine ⟨⟨s.root, root, s.read?_partText es hnames hcolors.2, hroot,
    s.stylesResolve_root _ _ _ es htagged, ?_⟩, s.spacing_headingStyle_eq_iff⟩
  exact s.headings_root hcolors.2 _ _ _ htagged

/-- Headings at levels that exist and at levels that do not, one of them in a table, among blocks
with other styles. -/
def headedElements : List Element :=
  [.heading 2 "Plan", .quote [{ text := "f", code := true }],
    .table [⟨[⟨[.heading 9 "A & B", .heading 6 "C"]⟩], true⟩, ⟨[], false⟩], .heading (-1) "End",
    .bulletList [{ runs := [{ text := "x", link := some "u" }] }], .codeBlock none "y"]

/-- Levels without a slot are read as the first level, in a table and outside. -/
theorem stylesResolve_partText_headedElements :
    (∀ font ∈ framedStyle.fonts, ∀ c ∈ font.name, c.isXmlChar = true) ∧
      (∀ t ∈ framedStyle.linkColor :: framedStyle.styleColors,
        ∀ c ∈ t, c ≠ '<' ∧ c ≠ '&' ∧ c ≠ '"') ∧
      (∃ styles root, Xml.read? (framedStyle.partText headedElements .styles) = some styles ∧
        Xml.read? (framedStyle.partText headedElements .document) = some root ∧
        StylesResolve styles root ∧
        Xml.headings styles root
          = ([(framedStyle.headingStyle 2, "Plan"), (framedStyle.headingStyle 1, "A & B"),
            (framedStyle.headingStyle 6, "C"), (framedStyle.headingStyle 1, "End")] :
              List (HeadingStyle × Text))) ∧
      (framedStyle.headingStyle 2).spacing = (framedStyle.headings.styleFor 2).spacing := by
  have hnames : ∀ font ∈ framedStyle.fonts, ∀ c ∈ font.name, c.isXmlChar = true := by decide
  have hcolors : ∀ t ∈ framedStyle.linkColor :: framedStyle.styleColors,
      ∀ c ∈ t, c ≠ '<' ∧ c ≠ '&' ∧ c ≠ '"' := by decide
  obtain ⟨hread, hspacing⟩ := framedStyle.stylesResolve_partText headedElements hnames hcolors
  exact ⟨hnames, hcolors, hread, (hspacing 2).mpr (by decide)⟩

/-- A style whose headings of the first level are to be drawn toward what stands before them. -/
def indrawnStyle : Style := { headings := { h1 := { spacing := { before := -20 } } } }

/-- The distance of such a heading is -20 in the style for its level, and is lost in the part: the
style that a reader finds for the heading has none. -/
theorem headings_indrawnStyle :
    (∀ font ∈ indrawnStyle.fonts, ∀ c ∈ font.name, c.isXmlChar = true) ∧
      (∀ t ∈ indrawnStyle.linkColor :: indrawnStyle.styleColors,
        ∀ c ∈ t, c ≠ '<' ∧ c ≠ '&' ∧ c ≠ '"') ∧
      ∃ styles root found, Xml.read? (indrawnStyle.partText [.heading 1 "A"] .styles) = some styles ∧
        Xml.read? (indrawnStyle.partText [.heading 1 "A"] .document) = some root ∧
        Xml.headings styles root = [(found, Text.ofString "A")] ∧ found.spacing.before = 0 ∧
        (indrawnStyle.headings.styleFor 1).spacing.before = -20 := by
  have hnames : ∀ font ∈ indrawnStyle.fonts, ∀ c ∈ font.name, c.isXmlChar = true := by decide
  have hcolors : ∀ t ∈ indrawnStyle.linkColor :: indrawnStyle.styleColors,
      ∀ c ∈ t, c ≠ '<' ∧ c ≠ '&' ∧ c ≠ '"' := by decide
  have hstyles : ∀ t ∈ indrawnStyle.styleColors, ∀ c ∈ t, c ≠ '<' ∧ c ≠ '&' ∧ c ≠ '"' :=
    fun t ht => hcolors t (List.mem_cons_of_mem _ ht)
  -- a heading that is drawn up by a point is written without a distance
  obtain ⟨root, hroot, htagged⟩ :=
    indrawnStyle.exists_read?_document [.heading 1 "A"] (hcolors _ List.mem_cons_self)
  exact ⟨hnames, hcolors, indrawnStyle.root, root, indrawnStyle.headingStyle 1,
    indrawnStyle.read?_partText _ hnames hstyles, hroot,
    indrawnStyle.headings_root hstyles _ _ _ htagged, by decide, by decide⟩

end Style

end Wordsmith
