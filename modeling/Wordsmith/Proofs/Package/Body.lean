import Wordsmith.Package.Body
import Wordsmith.Proofs.Package.Groups
import Wordsmith.Proofs.Package.Relationships

/-!
# The lexicon of the body

What may stand in the body of a document is fixed by a stock of tags, and one text is written as it
is: the colour of links. Every emitter keeps to this lexicon, whatever the elements, the link mode
and the texts are. The frame around the elements has tags of its own, so no element can hold a
second body or a second page geometry.

* `within_elements` — the elements keep to `elementLexicon`.
* `within_documentMarkup` — the whole part keeps to `documentLexicon`.
-/

namespace Wordsmith

open Markup

/-- The tags of elements with their attributes. -/
def elementTags : List (String × List String) :=
  [("w:p", []), ("w:pPr", []), ("w:pStyle", ["w:val"]), ("w:r", []), ("w:rPr", []),
    ("w:t", ["xml:space"]), ("w:rStyle", ["w:val"]), ("w:b", []), ("w:i", []), ("w:strike", []),
    ("w:color", ["w:val"]), ("w:u", ["w:val"]), ("w:hyperlink", ["r:id"]), ("w:numPr", []),
    ("w:ilvl", ["w:val"]), ("w:numId", ["w:val"]), ("w:pBdr", []),
    ("w:bottom", ["w:val", "w:sz", "w:space", "w:color"]), ("w:drawing", []),
    ("wp:inline", ["distT", "distB", "distL", "distR"]), ("wp:extent", ["cx", "cy"]),
    ("wp:docPr", ["id", "name", "descr"]), ("a:graphic", []), ("a:graphicData", ["uri"]),
    ("pic:pic", []), ("pic:nvPicPr", []), ("pic:cNvPr", ["id", "name"]), ("pic:cNvPicPr", []),
    ("pic:blipFill", []), ("a:blip", ["r:embed"]), ("pic:spPr", []), ("a:xfrm", []),
    ("a:off", ["x", "y"]), ("a:ext", ["cx", "cy"]), ("w:tbl", []), ("w:tblPr", []),
    ("w:tblStyle", ["w:val"]), ("w:tblW", ["w:w", "w:type"]), ("w:tblGrid", []),
    ("w:gridCol", ["w:w"]), ("w:tr", []), ("w:trPr", []), ("w:tblHeader", []), ("w:tc", []),
    ("w:tcPr", []), ("w:tcW", ["w:w", "w:type"])]

/-- The tags of the frame around the elements. -/
def frameTags : List (String × List String) :=
  [("w:document", ["xmlns:w", "xmlns:r", "xmlns:wp", "xmlns:a", "xmlns:pic"]), ("w:body", []),
    ("w:sectPr", []), ("w:pgSz", ["w:w", "w:h"]),
    ("w:pgMar",
      ["w:top", "w:right", "w:bottom", "w:left", "w:header", "w:footer", "w:gutter"])]

/-- The lexicon of elements: only the colour of a run is written as it is. -/
def elementLexicon (color : Text) : Lexicon where
  tags := elementTags
  verbatim tag t := tag = "w:color" ∧ t = color

/-- The lexicon of the document part. -/
def documentLexicon (color : Text) : Lexicon where
  tags := frameTags ++ elementTags
  verbatim tag t := tag = "w:color" ∧ t = color

namespace Markup

variable {color : Text}

/-! ## Runs

A run is its text behind the marks that are on. The marks are fixed elements but for the colour of a
link, which is the verbatim text of the lexicon. Runs that share a target form a group, and how a group
is enclosed depends on the link mode (`within_group`). -/

theorem within_runText (t : Text) : Within (elementLexicon color) (runText t) :=
  .node (.fixed [("xml:space", "preserve")] (by simp [elementLexicon, elementTags]) (by decide))
    (.text t)

/-- Many properties are an element with one value, and here the value is a fixed word. -/
theorem within_value {tag value : String} (hmem : (tag, ["w:val"]) ∈ elementTags)
    (hplain : (Text.ofString value).all CodePoint.isPlain = true) :
    Within (elementLexicon color) (.value tag value) :=
  .empty (.of_mem hmem (.ofString hplain))

theorem within_mark {tag : String} (hmem : (tag, []) ∈ elementTags) :
    Within (elementLexicon color) (.empty tag []) :=
  .empty (.bare hmem)

theorem within_if {b : Bool} {m : Markup} (h : Within (elementLexicon color) m) :
    ∀ n ∈ (if b then [m] else []), Within (elementLexicon color) n := by
  cases b with
  | false => exact fun _ hn => absurd hn List.not_mem_nil
  | true =>
    intro n hn
    rw [List.mem_singleton.mp hn]
    exact h

/-- The marks of a run are fixed words, except that the colour of a link is that of the policy. -/
theorem within_properties {p : LinkPolicy} (r : Run) :
    ∀ m ∈ r.properties p, Within (elementLexicon p.color) m := by
  have hcolor : Within (elementLexicon p.color) (.value "w:color" p.color) :=
    .empty (.of_mem (by simp [elementLexicon, elementTags]) (.verbatim ⟨rfl, rfl⟩))
  intro m hm
  simp only [Run.properties, List.mem_append] at hm
  -- one case for each mark a run may carry, in the order in which they are written
  rcases hm with ((((hcode | hbold) | hitalic) | hstruck) | hlinked) | hunderlined
  · exact within_if (within_value (by simp [elementTags]) (by decide)) m hcode
  · exact within_if (within_mark (by simp [elementTags])) m hbold
  · exact within_if (within_mark (by simp [elementTags])) m hitalic
  · exact within_if (within_mark (by simp [elementTags])) m hstruck
  · exact within_if hcolor m hlinked
  · exact within_if (within_value (by simp [elementTags]) (by decide)) m hunderlined

/-- A run without marks has no properties at all, not empty ones. -/
theorem within_run {p : LinkPolicy} (r : Run) : Within (elementLexicon p.color) (r.markup p) := by
  refine .element (.bare (by simp [elementLexicon, elementTags])) ?_
  intro m hm
  -- the properties, left out if there are none, and the text
  rcases List.mem_append.mp hm with hproperties | htext
  · split at hproperties
    · exact absurd hproperties List.not_mem_nil
    · rw [List.mem_singleton.mp hproperties]
      exact .element (.bare (by simp [elementLexicon, elementTags])) (within_properties r)
  · rw [List.mem_singleton.mp htext]
    exact within_runText r.text

theorem within_map_markup {p : LinkPolicy} (runs : List Run) :
    ∀ m ∈ runs.map (Run.markup p), Within (elementLexicon p.color) m :=
  List.forall_mem_map.mpr fun r _ => within_run r

/-- A group of runs keeps to the lexicon in every mode. -/
theorem within_group {p : LinkPolicy} (group : List Run) :
    ∀ m ∈ Run.groupMarkup p (Run.groupLink group) group, Within (elementLexicon p.color) m := by
  have hbody := within_map_markup (p := p) group
  cases htarget : Run.groupTarget? group with
  | none =>
    rw [Run.groupMarkup_of_none htarget]
    exact hbody
  | some target =>
    -- without a target there is nothing to enclose; with one it is coloured, shown, or named
    cases hmode : p.mode with
    | coloredText =>
      rw [Run.groupMarkup_of_coloredText hmode]
      exact hbody
    | inlineUrl =>
      rw [Run.groupMarkup_of_inlineUrl hmode htarget]
      exact List.forall_mem_append.mpr ⟨hbody, List.forall_mem_singleton.mpr (within_run _)⟩
    | hyperlink =>
      cases hname : p.table.name? target with
      | none =>
        rw [Run.groupMarkup_of_name_none hmode htarget hname]
        exact hbody
      | some name =>
        rw [Run.groupMarkup_of_name hmode htarget hname]
        -- a name in the table is that of some number
        obtain ⟨i, -, rfl⟩ := Option.map_eq_some_iff.mp hname
        have htag : TagWithin (elementLexicon p.color) "w:hyperlink"
            [.verbatim "r:id" (LinkTable.relationName (LinkTable.firstNumber + i))] :=
          .of_mem (by simp [elementLexicon, elementTags, Attribute.verbatim])
            (LinkTable.written_relationName _)
        exact List.forall_mem_singleton.mpr (.element htag hbody)

theorem within_runs {p : LinkPolicy} (runs : List Run) :
    ∀ m ∈ Run.allMarkup p runs, Within (elementLexicon p.color) m := by
  intro m hm
  rw [Run.allMarkup_eq] at hm
  obtain ⟨group, -, hm⟩ := List.mem_flatMap.mp hm
  exact within_group group m hm

/-! ## Paragraphs

Headings, code, rules and items are paragraphs with properties of their own. What they put into the
values of attributes are identifiers of styles and numbers, which are plain. -/

/-- A paragraph keeps to the lexicon if its properties and its content do; without properties their
element is left out. -/
theorem within_paragraph {properties content : List Markup}
    (hproperties : ∀ m ∈ properties, Within (elementLexicon color) m)
    (hcontent : ∀ m ∈ content, Within (elementLexicon color) m) :
    Within (elementLexicon color) (.paragraph properties content) := by
  refine .element (.bare (by simp [elementLexicon, elementTags])) ?_
  intro m hm
  rcases List.mem_append.mp hm with hm | hm
  · split at hm
    · exact absurd hm List.not_mem_nil
    · rw [List.mem_singleton.mp hm]
      exact .element (.bare (by simp [elementLexicon, elementTags])) hproperties
  · exact hcontent m hm

theorem within_styleReference {id : Text} (hplain : ∀ c ∈ id, c.isPlain = true) :
    Within (elementLexicon color) (styleReference id) :=
  .empty (.of_mem (by simp [elementLexicon, elementTags]) (.plain hplain))

/-- The level of a heading is any integer, and the style is named by the slot it falls into. -/
theorem within_heading (level : Int) (text : Text) :
    Within (elementLexicon color) (heading level text) := by
  -- the style of a heading is named by its level, brought into the range of the six styles
  have hplain : ∀ c ∈ Text.ofString "Heading" ++ Text.ofNat (HeadingSlot.ofLevel level).level,
      c.isPlain = true := by
    intro c hc
    rcases List.mem_append.mp hc with hc | hc
    · exact (by decide : ∀ c ∈ Text.ofString "Heading", c.isPlain = true) c hc
    · exact isPlain_of_mem_ofNat hc
  have hrun : Within (elementLexicon color) (.element "w:r" [] [runText text]) :=
    .node (.bare (by simp [elementLexicon, elementTags])) (within_runText text)
  exact within_paragraph (List.forall_mem_singleton.mpr (within_styleReference hplain))
    (List.forall_mem_singleton.mpr hrun)

/-- The language of a code block is not written, so the code is the only text in it. -/
theorem within_codeBlock (code : Text) : Within (elementLexicon color) (codeBlock code) := by
  have hproperties : Within (elementLexicon color)
      (.element "w:rPr" [] [value "w:rStyle" "Code"]) :=
    .node (.bare (by simp [elementLexicon, elementTags]))
      (within_value (by simp [elementTags]) (by decide))
  have hrun : Within (elementLexicon color)
      (.element "w:r" [] [.element "w:rPr" [] [value "w:rStyle" "Code"], runText code]) :=
    .node (.bare (by simp [elementLexicon, elementTags])) ⟨hproperties, within_runText code⟩
  exact within_paragraph (List.forall_mem_singleton.mpr (within_styleReference (by decide)))
    (List.forall_mem_singleton.mpr hrun)

/-- A rule is an empty paragraph with a border below. -/
theorem within_horizontalRule : Within (elementLexicon color) horizontalRule := by
  have hside : TagWithin (elementLexicon color) "w:bottom"
      [.fixed "w:val" "single", .fixed "w:sz" "6", .fixed "w:space" "1",
        .fixed "w:color" "auto"] :=
    .fixed [("w:val", "single"), ("w:sz", "6"), ("w:space", "1"), ("w:color", "auto")]
      (by simp [elementLexicon, elementTags]) (by decide)
  have hborder : Within (elementLexicon color)
      (.element "w:pBdr" []
        [.empty "w:bottom"
          [.fixed "w:val" "single", .fixed "w:sz" "6", .fixed "w:space" "1",
            .fixed "w:color" "auto"]]) :=
    .node (.bare (by simp [elementLexicon, elementTags])) (.empty hside)
  exact within_paragraph (List.forall_mem_singleton.mpr hborder) nofun

theorem within_number {tag : String} (hmem : (tag, ["w:val"]) ∈ elementTags) (n : Int) :
    Within (elementLexicon color) (value tag (.ofInt n)) :=
  .empty (.of_mem hmem (.ofInt n))

/-- An item refers to its list and to its level in it by numbers. -/
theorem within_itemProperties {style : Text} (hplain : ∀ c ∈ style, c.isPlain = true)
    (list level : Int) :
    ∀ m ∈ itemProperties style list level, Within (elementLexicon color) m := by
  have hnumbering : Within (elementLexicon color)
      (.element "w:numPr" []
        [value "w:ilvl" (.ofInt level), value "w:numId" (.ofInt list)]) :=
    .node (.bare (by simp [elementLexicon, elementTags]))
      ⟨within_number (by simp [elementTags]) level, within_number (by simp [elementTags]) list⟩
  exact List.forall_mem_cons.mpr
    ⟨within_styleReference hplain, List.forall_mem_singleton.mpr hnumbering⟩

/-- The items of a list are paragraphs beside each other: the list itself has no element. -/
theorem within_items {p : LinkPolicy} {style : Text} (hplain : ∀ c ∈ style, c.isPlain = true)
    (list : Int) (items : List ListItem) :
    ∀ m ∈ ListItem.allMarkup p style list items, Within (elementLexicon p.color) m := by
  intro m hm
  obtain ⟨item, -, rfl⟩ := List.mem_map.mp hm
  exact within_paragraph (within_itemProperties hplain list item.level) (within_runs item.runs)

/-! ## Images

An image is a deep nest of elements of which all but three values are fixed. The words for it stand in
two of them, escaped, and its number in the third. -/

/-- The graphic of an image: words for it, and a frame of fixed size without a picture. -/
theorem within_graphic (altText : Text) : Within (elementLexicon color)
    (.element "a:graphic" []
      [.element "a:graphicData" [.fixed "uri" Vocabulary.pictures]
        [.element "pic:pic" []
          [.element "pic:nvPicPr" []
              [.empty "pic:cNvPr" [.fixed "id" "0", .escaped "name" altText.strip],
                .empty "pic:cNvPicPr" []],
            .element "pic:blipFill" [] [.empty "a:blip" [.fixed "r:embed" "rId1"]],
            .element "pic:spPr" []
              [.element "a:xfrm" []
                [.empty "a:off" [.fixed "x" "0", .fixed "y" "0"],
                  .empty "a:ext" [.fixed "cx" "5486400", .fixed "cy" "3086400"]]]]]]) := by
  have hbare : ∀ tag, (tag, []) ∈ elementTags → TagWithin (elementLexicon color) tag [] :=
    fun tag hmem => .bare hmem
  -- the words of the image are its name here
  have hpicture : TagWithin (elementLexicon color) "pic:cNvPr"
      [.fixed "id" "0", .escaped "name" altText.strip] :=
    .of_mem (by simp [elementLexicon, elementTags, Attribute.fixed, Attribute.escaped])
      ⟨.ofString (by decide), .escaped altText⟩
  have hproperties : Within (elementLexicon color)
      (.element "pic:nvPicPr" []
        [.empty "pic:cNvPr" [.fixed "id" "0", .escaped "name" altText.strip],
          .empty "pic:cNvPicPr" []]) :=
    .node (hbare _ (by simp [elementTags])) ⟨.empty hpicture, within_mark (by simp [elementTags])⟩
  have hfill : Within (elementLexicon color)
      (.element "pic:blipFill" [] [.empty "a:blip" [.fixed "r:embed" "rId1"]]) :=
    .node (hbare _ (by simp [elementTags]))
      (.empty (.fixed [("r:embed", "rId1")] (by simp [elementLexicon, elementTags]) (by decide)))
  have hoffset : TagWithin (elementLexicon color) "a:off" [.fixed "x" "0", .fixed "y" "0"] :=
    .fixed [("x", "0"), ("y", "0")] (by simp [elementLexicon, elementTags]) (by decide)
  have hsize : TagWithin (elementLexicon color) "a:ext"
      [.fixed "cx" "5486400", .fixed "cy" "3086400"] :=
    .fixed [("cx", "5486400"), ("cy", "3086400")] (by simp [elementLexicon, elementTags])
      (by decide)
  have hshape : Within (elementLexicon color)
      (.element "pic:spPr" []
        [.element "a:xfrm" []
          [.empty "a:off" [.fixed "x" "0", .fixed "y" "0"],
            .empty "a:ext" [.fixed "cx" "5486400", .fixed "cy" "3086400"]]]) :=
    .node (hbare _ (by simp [elementTags]))
      (.node (hbare _ (by simp [elementTags])) ⟨.empty hoffset, .empty hsize⟩)
  have hdata : TagWithin (elementLexicon color) "a:graphicData"
      [.fixed "uri" Vocabulary.pictures] :=
    .fixed [("uri", Vocabulary.pictures)] (by simp [elementLexicon, elementTags]) (by decide)
  exact .node (hbare _ (by simp [elementTags]))
    (.node hdata (.node (hbare _ (by simp [elementTags])) ⟨hproperties, hfill, hshape⟩))

/-- The number of an image stands in its identifier and in its name, and the words for it, stripped and
escaped, in the description. -/
theorem within_image (number : Nat) (altText : Text) :
    Within (elementLexicon color) (image number altText) := by
  have hbare : ∀ tag, (tag, []) ∈ elementTags → TagWithin (elementLexicon color) tag [] :=
    fun tag hmem => .bare hmem
  have hname : ∀ c ∈ Text.ofString "Picture " ++ Text.ofNat number, c.isPlain = true := by
    intro c hc
    rcases List.mem_append.mp hc with hc | hc
    · exact (by decide : ∀ c ∈ Text.ofString "Picture ", c.isPlain = true) c hc
    · exact isPlain_of_mem_ofNat hc
  have hextent : TagWithin (elementLexicon color) "wp:extent"
      [.fixed "cx" "5486400", .fixed "cy" "3086400"] :=
    .fixed [("cx", "5486400"), ("cy", "3086400")] (by simp [elementLexicon, elementTags])
      (by decide)
  -- the number of the image is written twice, and its words once more as the description
  have hwords : TagWithin (elementLexicon color) "wp:docPr"
      [.int "id" number, .verbatim "name" ("Picture " ++ Text.ofNat number),
        .escaped "descr" altText.strip] :=
    .of_mem (by simp [elementLexicon, elementTags, Attribute.int, Attribute.verbatim,
      Attribute.escaped])
      ⟨.ofInt number, .plain hname, .escaped altText⟩
  have hinline : TagWithin (elementLexicon color) "wp:inline"
      [.fixed "distT" "0", .fixed "distB" "0", .fixed "distL" "0", .fixed "distR" "0"] :=
    .fixed [("distT", "0"), ("distB", "0"), ("distL", "0"), ("distR", "0")]
      (by simp [elementLexicon, elementTags]) (by decide)
  exact .node (hbare _ (by simp [elementTags])) (.node (hbare _ (by simp [elementTags]))
    (.node (hbare _ (by simp [elementTags]))
      (.node hinline ⟨.empty hextent, .empty hwords, within_graphic altText⟩)))

/-! ## Tables

The geometry of a table is made of numbers. Its cells are given as markup (`RowMarkup`), so the lemmas
take what the walk knows about the cells as a hypothesis and add the frame of the row and of the table. -/

theorem within_width {tag : String} (hmem : (tag, ["w:w", "w:type"]) ∈ elementTags) (n : Int) :
    Within (elementLexicon color) (width tag n) :=
  .empty (.of_mem hmem ⟨.ofInt n, .ofString (by decide)⟩)

/-- A cell holds its width and its content, or an empty paragraph in place of no content. -/
theorem within_tableCell (columnWidth : Int) {content : List Markup}
    (h : ∀ m ∈ content, Within (elementLexicon color) m) :
    Within (elementLexicon color) (tableCell columnWidth content) := by
  have hproperties : Within (elementLexicon color)
      (.element "w:tcPr" [] [width "w:tcW" columnWidth]) :=
    .node (.bare (by simp [elementLexicon, elementTags]))
      (within_width (by simp [elementTags]) columnWidth)
  refine .element (.bare (by simp [elementLexicon, elementTags])) ?_
  rw [List.forall_mem_cons]
  refine ⟨hproperties, ?_⟩
  -- an empty cell is given a paragraph
  split
  · exact List.forall_mem_singleton.mpr (within_mark (by simp [elementTags]))
  · exact h

/-- A row keeps to the lexicon if its cells do; the cells that fill it up are empty. -/
theorem within_tableRow (count : Nat) (columnWidth : Int) {row : RowMarkup}
    (h : ∀ content ∈ row.cells, ∀ m ∈ content, Within (elementLexicon color) m) :
    Within (elementLexicon color) (tableRow count columnWidth row) := by
  have hheader : Within (elementLexicon color) (.element "w:trPr" [] [.empty "w:tblHeader" []]) :=
    .node (.bare (by simp [elementLexicon, elementTags])) (within_mark (by simp [elementTags]))
  refine .element (.bare (by simp [elementLexicon, elementTags])) ?_
  rw [List.forall_mem_append]
  refine ⟨within_if hheader, ?_⟩
  intro m hm
  obtain ⟨content, hcontent, rfl⟩ := List.mem_map.mp hm
  apply within_tableCell
  rcases List.mem_append.mp hcontent with hcell | hpadding
  · exact h content hcell
  · rw [List.eq_of_mem_replicate hpadding]
    exact nofun

/-- A table without rows is not written. Otherwise its
grid has a column for each cell of its first row, and one at least. -/
theorem within_table (contentWidth : Int) {rows : List RowMarkup}
    (h : ∀ row ∈ rows, ∀ content ∈ row.cells, ∀ m ∈ content, Within (elementLexicon color) m) :
    ∀ m ∈ table contentWidth rows, Within (elementLexicon color) m := by
  unfold table
  cases rows with
  | nil => exact nofun
  | cons first rest =>
    have hproperties : ∀ n, Within (elementLexicon color)
        (.element "w:tblPr" [] [value "w:tblStyle" "TableGrid", width "w:tblW" n]) := fun n =>
      .node (.bare (by simp [elementLexicon, elementTags]))
        ⟨within_value (by simp [elementTags]) (by decide), within_width (by simp [elementTags]) n⟩
    have hcolumn : ∀ n : Int, Within (elementLexicon color) (.empty "w:gridCol" [.int "w:w" n]) :=
      fun n => .empty (.of_mem (by simp [elementLexicon, elementTags, Attribute.int]) (.ofInt n))
    -- the grid repeats one column as often as the first row has cells
    have hgrid : ∀ (count : Nat) (n : Int), Within (elementLexicon color)
        (.element "w:tblGrid" [] (List.replicate count (.empty "w:gridCol" [.int "w:w" n]))) := by
      intro count n
      refine .element (.bare (by simp [elementLexicon, elementTags])) fun m hm => ?_
      rw [List.eq_of_mem_replicate hm]
      exact hcolumn n
    show ∀ m ∈ [element "w:tbl" []
      ([element "w:tblPr" [] _, element "w:tblGrid" [] _] ++
        (first :: rest).map (tableRow _ _))], Within (elementLexicon color) m
    rw [List.forall_mem_singleton]
    refine .element (.bare (by simp [elementLexicon, elementTags])) ?_
    rw [List.forall_mem_append]
    refine ⟨List.forall_mem_cons.mpr
      ⟨hproperties _, List.forall_mem_singleton.mpr (hgrid _ _)⟩, ?_⟩
    intro m hm
    obtain ⟨row, hrow, rfl⟩ := List.mem_map.mp hm
    exact within_tableRow _ _ (h row hrow)

/-! ## Elements

The walk over the elements goes down into the cells of tables, so there is one lemma for each of its
four functions. The style of the paragraphs in a cell is the only thing that it hands down. -/

theorem isPlain_of_mem_cellStyle (header : Bool) : ∀ c ∈ cellStyle header, c.isPlain = true := by
  cases header <;> decide

mutual

/-- What an element writes depends on where it stands (`cell`) and on the number of the
next image; neither matters to the lexicon. -/
theorem within_element (p : BodyPolicy) {cell : Option Text}
    (hcell : ∀ style ∈ cell, ∀ c ∈ style, c.isPlain = true) (next : Nat) (e : Element) :
    ∀ m ∈ e.markup p cell next, Within (elementLexicon p.links.color) m := by
  cases e with
  | heading level text => exact List.forall_mem_singleton.mpr (within_heading level text)
  | paragraph runs =>
    -- in a cell the paragraph refers to the style that is handed down
    have hstyle : ∀ m ∈ cell.toList.map fun style => styleReference style,
        Within (elementLexicon p.links.color) m := by
      intro m hm
      obtain ⟨style, hstyle, rfl⟩ := List.mem_map.mp hm
      exact within_styleReference (hcell style (Option.mem_toList.mp hstyle))
    exact List.forall_mem_singleton.mpr (within_paragraph hstyle (within_runs runs))
  | quote runs =>
    have hstyle : Within (elementLexicon p.links.color) (styleReference "Quote") :=
      within_styleReference (by decide)
    exact List.forall_mem_singleton.mpr
      (within_paragraph (List.forall_mem_singleton.mpr hstyle) (within_runs runs))
  | bulletList items => exact within_items (by decide) 1 items
  | numberedList items => exact within_items (by decide) 2 items
  | codeBlock language code => exact List.forall_mem_singleton.mpr (within_codeBlock code)
  | table rows => exact within_table p.contentWidth (within_rows p next rows)
  | horizontalRule => exact List.forall_mem_singleton.mpr within_horizontalRule
  | image altText source => exact List.forall_mem_singleton.mpr (within_image next altText)
  | loneRun _ => exact nofun
  | loneItem _ => exact nofun
  | loneRow _ => exact nofun
  | loneCell _ => exact nofun

theorem within_rows (p : BodyPolicy) (next : Nat) (rows : List Row) :
    ∀ row ∈ Row.allMarkup p next rows, ∀ content ∈ row.cells, ∀ m ∈ content,
      Within (elementLexicon p.links.color) m := by
  cases rows with
  | nil => exact nofun
  | cons row rows =>
    obtain ⟨cells, header⟩ := row
    unfold Row.allMarkup
    rw [List.forall_mem_cons]
    exact ⟨within_cells p (isPlain_of_mem_cellStyle header) next cells, within_rows p _ rows⟩

theorem within_cells (p : BodyPolicy) {style : Text} (hstyle : ∀ c ∈ style, c.isPlain = true)
    (next : Nat) (cells : List Cell) :
    ∀ content ∈ Cell.allMarkup p style next cells, ∀ m ∈ content,
      Within (elementLexicon p.links.color) m := by
  cases cells with
  | nil => exact nofun
  | cons cell cells =>
    obtain ⟨content⟩ := cell
    have hcell : ∀ t ∈ some style, ∀ c ∈ t, c.isPlain = true := by
      rintro t ⟨⟩
      exact hstyle
    unfold Cell.allMarkup
    rw [List.forall_mem_cons]
    exact ⟨within_elements p hcell next content, within_cells p hstyle _ cells⟩

theorem within_elements (p : BodyPolicy) {cell : Option Text}
    (hcell : ∀ style ∈ cell, ∀ c ∈ style, c.isPlain = true) (next : Nat) (es : List Element) :
    ∀ m ∈ Element.allMarkup p cell next es, Within (elementLexicon p.links.color) m := by
  cases es with
  | nil => exact nofun
  | cons e es =>
    unfold Element.allMarkup
    rw [List.forall_mem_append]
    exact ⟨within_element p hcell next e, within_elements p hcell _ es⟩

end

/-- Outside of tables, paragraphs have no style of their own. -/
theorem within_topElements (p : BodyPolicy) (es : List Element) :
    ∀ m ∈ Element.allMarkup p none 1 es, Within (elementLexicon p.links.color) m :=
  within_elements p (fun _ hstyle => absurd hstyle (Option.not_mem_none _)) 1 es

/-! ## The document part

The frame adds the root with its declared prefixes, the body and the section. Its tags (`frameTags`)
are no tags of elements, so the two lexica are kept apart and the elements are lifted by `Within.mono`. -/

theorem within_section (size : PageSize) (margins : PageMargins) :
    Within (documentLexicon color) (sectionMarkup size margins) := by
  have hsize : TagWithin (documentLexicon color) "w:pgSz"
      [.int "w:w" size.width, .int "w:h" size.height] :=
    .of_mem (by simp [documentLexicon, frameTags, Attribute.int]) ⟨.ofInt _, .ofInt _⟩
  have hmargins : TagWithin (documentLexicon color) "w:pgMar"
      [.int "w:top" margins.top, .int "w:right" margins.right, .int "w:bottom" margins.bottom,
        .int "w:left" margins.left, .int "w:header" margins.header,
        .int "w:footer" margins.footer, .int "w:gutter" margins.gutter] :=
    .of_mem (by simp [documentLexicon, frameTags, Attribute.int])
      ⟨.ofInt _, .ofInt _, .ofInt _, .ofInt _, .ofInt _, .ofInt _, .ofInt _⟩
  exact .node (.bare (by simp [documentLexicon, frameTags])) ⟨.empty hsize, .empty hmargins⟩

/-- The document part keeps to its lexicon whatever the policy, the page and the elements are. -/
theorem within_documentMarkup (p : BodyPolicy) (size : PageSize) (margins : PageMargins)
    (es : List Element) :
    Within (documentLexicon p.links.color) (documentMarkup p size margins es) := by
  have hroot : TagWithin (documentLexicon p.links.color) "w:document"
      [.fixed "xmlns:w" Vocabulary.main, .fixed "xmlns:r" Vocabulary.references,
        .fixed "xmlns:wp" Vocabulary.drawings, .fixed "xmlns:a" Vocabulary.graphics,
        .fixed "xmlns:pic" Vocabulary.pictures] :=
    .fixed [("xmlns:w", Vocabulary.main), ("xmlns:r", Vocabulary.references),
      ("xmlns:wp", Vocabulary.drawings), ("xmlns:a", Vocabulary.graphics),
      ("xmlns:pic", Vocabulary.pictures)] (by simp [documentLexicon, frameTags]) (by decide)
  have helements : ∀ m ∈ Element.allMarkup p none 1 es,
      Within (documentLexicon p.links.color) m := by
    intro m hm
    apply Within.mono (within_topElements p es m hm)
    · exact fun e he => List.mem_append_right frameTags he
    · exact fun _ _ h => h
  -- the section follows the elements as the last child of the body
  have hbody : Within (documentLexicon p.links.color)
      (.element "w:body" [] (Element.allMarkup p none 1 es ++ [sectionMarkup size margins])) := by
    refine .element (.bare (by simp [documentLexicon, frameTags])) ?_
    rw [List.forall_mem_append]
    exact ⟨helements, List.forall_mem_singleton.mpr (within_section size margins)⟩
  exact .node hroot hbody

end Markup

/-- Names are well formed and no tag repeats an attribute, which is decided tag by tag. -/
theorem documentLexicon_named (color : Text) : (documentLexicon color).Named where
  names := by
    show ∀ e ∈ frameTags ++ elementTags, _
    decide

/-- The lexicon of the document part is fit for documents if the colour of links could stand in a
value. -/
theorem documentLexicon_legible {color : Text} (h : ∀ c ∈ color, c ≠ '<' ∧ c ≠ '&' ∧ c ≠ '"') :
    (documentLexicon color).Legible where
  toNamed := documentLexicon_named color
  verbatim := by
    rintro tag t ⟨-, rfl⟩
    exact h

end Wordsmith
