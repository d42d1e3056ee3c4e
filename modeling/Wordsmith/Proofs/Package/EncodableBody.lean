import Wordsmith.Proofs.Markup.AllEncodable
import Wordsmith.Proofs.Package.Hyperlinks
import Wordsmith.Proofs.Package.Pictures

/-!
# Surrogates in the body

Each emitter of the body writes certain texts as they are or escaped, and nothing else that could
hold a surrogate: one lemma for each says which. They are assembled along the walk over the elements
(`allEncodable_elements`), whose pieces write texts, link targets and the colour of links
(`allEncodable_pieces`).
-/

namespace Wordsmith

open Markup

/-! ## Runs

A run brings two texts into the part, its own and, if it is a link, the colour of links. A group of
runs brings a third where targets are shown (`LinkMode.inlineUrl`); as a hyperlink it brings the
identifier of its relationship, a numeral behind a prefix, which is never at fault. -/

@[simp] theorem Markup.isEncodable_runText {t : Text} :
    (runText t).print.IsEncodable ↔ t.IsEncodable := by
  simp [runText]

namespace Run

variable {p : LinkPolicy}

/-- A linked run writes the colour of links besides its text. -/
theorem isEncodable_markup (r : Run) :
    (r.markup p).print.IsEncodable
      ↔ r.text.IsEncodable ∧ (r.target?.isSome → p.color.IsEncodable) := by
  have hproperties : AllEncodable (r.properties p) ↔ (r.target?.isSome → p.color.IsEncodable) := by
    simp [properties]
  -- the properties are written as one element, or not at all
  have hmarks : AllEncodable (if (r.properties p).isEmpty then [] else
      [.element "w:rPr" [] (r.properties p)]) ↔ (r.target?.isSome → p.color.IsEncodable) := by
    rw [← hproperties]
    cases r.properties p <;> simp [AllEncodable]
  unfold markup
  rw [isEncodable_bare, allEncodable_append, hmarks, and_comm]
  simp

/-- All runs of a group have the target of the group: it was formed by it. -/
theorem target?_of_mem_group {runs group : List Run} (hgroup : group ∈ groups runs) {r : Run}
    (hr : r ∈ group) : r.target? = groupTarget? group := by
  have hlabelled : (groupLink group, group) ∈ linkGroups runs := by
    rw [linkGroups_eq]
    exact List.mem_map_of_mem hgroup
  have hlink := ((areLinkGroups runs).label _ hlabelled).2 r hr
  rw [groupTarget?_eq, target?, hlink]

theorem allEncodable_map_markup (runs : List Run) :
    AllEncodable (runs.map (markup p))
      ↔ ∀ r ∈ runs, r.text.IsEncodable ∧ (r.target?.isSome → p.color.IsEncodable) := by
  rw [allEncodable_map]
  simp only [isEncodable_markup]

/-- A group of runs writes the target behind its runs, if targets are shown. -/
theorem allEncodable_groupMarkup (group : List Run) :
    AllEncodable (groupMarkup p (groupLink group) group)
      ↔ AllEncodable (group.map (markup p)) ∧
        (p.mode = .inlineUrl → ∀ target ∈ groupTarget? group, target.IsEncodable) := by
  cases htarget : groupTarget? group with
  | none => simp [groupMarkup_of_none htarget]
  | some target =>
    cases hmode : p.mode with
    | coloredText => simp [groupMarkup_of_coloredText hmode]
    | inlineUrl =>
      have hshown : ((shownTarget target).markup p).print.IsEncodable ↔ target.IsEncodable := by
        rw [isEncodable_markup]
        simp [shownTarget, target?]
      rw [groupMarkup_of_inlineUrl hmode htarget, allEncodable_append]
      simp [hshown]
    | hyperlink =>
      cases hname : p.table.name? target with
      | none => simp [groupMarkup_of_name_none hmode htarget hname]
      | some name =>
        -- only the name of the target is written, and that is a numeral behind a prefix
        obtain ⟨i, -, rfl⟩ := Option.map_eq_some_iff.mp hname
        rw [groupMarkup_of_name hmode htarget hname]
        simp [AllEncodable, LinkTable.relationName]

/-- Grouping neither loses nor adds a run. -/
theorem forall_mem_groups {runs : List Run} {P : Run → Prop} :
    (∀ group ∈ groups runs, ∀ r ∈ group, P r) ↔ ∀ r ∈ runs, P r := by
  have hmem : ∀ r, r ∈ runs ↔ ∃ group ∈ groups runs, r ∈ group := by
    intro r
    conv_lhs => rw [← flatten_groups runs]
    exact List.mem_flatten
  constructor
  · intro h r hr
    obtain ⟨group, hgroup, hr⟩ := (hmem r).mp hr
    exact h group hgroup r hr
  · intro h group hgroup r hr
    exact h r ((hmem r).mpr ⟨group, hgroup, hr⟩)

/-- The targets of the groups are those of the runs. -/
theorem forall_mem_groupTarget? {runs : List Run} {P : Text → Prop} :
    (∀ group ∈ groups runs, ∀ target ∈ groupTarget? group, P target)
      ↔ ∀ target ∈ targets runs, P target := by
  constructor
  · intro h target htarget
    -- a target of a group is the target of any of its runs
    have hgroups : ∀ group ∈ groups runs, ∀ r ∈ group, ∀ target ∈ r.target?, P target := by
      intro group hgroup r hr
      rw [target?_of_mem_group hgroup hr]
      exact h group hgroup
    obtain ⟨r, hr, hlink⟩ := List.mem_filterMap.mp htarget
    exact forall_mem_groups.mp hgroups r hr target hlink
  · intro h group hgroup target htarget
    exact h target (mem_targets_of_mem_groups hgroup htarget)

/-- There are targets exactly if some run is a link. -/
theorem targets_ne_nil {runs : List Run} :
    targets runs ≠ [] ↔ ∃ r ∈ runs, r.target?.isSome = true := by
  unfold targets
  rw [ne_eq, List.filterMap_eq_nil_iff]
  simp [Option.isSome_iff_ne_none]

/-- A sequence of runs writes its texts, the colour of links if there is a link, and the targets if
targets are shown. -/
theorem allEncodable_allMarkup (runs : List Run) :
    AllEncodable (allMarkup p runs)
      ↔ (∀ r ∈ runs, r.text.IsEncodable) ∧ (targets runs ≠ [] → p.color.IsEncodable) ∧
        (p.mode = .inlineUrl → ∀ target ∈ targets runs, target.IsEncodable) := by
  -- the colour is asked of each link, which comes to asking it once if there is one
  have hcolor : (∀ r ∈ runs, r.target?.isSome = true → p.color.IsEncodable)
      ↔ (targets runs ≠ [] → p.color.IsEncodable) := by
    rw [targets_ne_nil]
    exact ⟨fun h ⟨r, hr, hsome⟩ => h r hr hsome, fun h r hr hsome => h ⟨r, hr, hsome⟩⟩
  -- the condition on the mode does not depend on the group
  have htargets : (∀ group ∈ groups runs, p.mode = .inlineUrl →
      ∀ target ∈ groupTarget? group, target.IsEncodable)
        ↔ (p.mode = .inlineUrl → ∀ target ∈ targets runs, target.IsEncodable) := by
    rw [← forall_mem_groupTarget?]
    exact ⟨fun h hmode group hgroup => h group hgroup hmode,
      fun h group hgroup hmode => h hmode group hgroup⟩
  rw [allMarkup_eq, allEncodable_flatMap]
  simp only [allEncodable_groupMarkup, allEncodable_map_markup]
  rw [forall₂_and, htargets, forall_mem_groups, forall₂_and, hcolor, and_assoc]

end Run

/-! ## Blocks

Every block is fixed markup around a text or around the content it is given. The lemmas are
equivalences, so a document is blamed for nothing that it does not write. -/

namespace Markup

/-- Properties that are left out are empty, so the condition on them is void and the equivalence needs
no case for them. -/
theorem isEncodable_paragraph {properties content : List Markup} :
    (paragraph properties content).print.IsEncodable
      ↔ AllEncodable properties ∧ AllEncodable content := by
  unfold paragraph
  rw [isEncodable_bare, allEncodable_append]
  cases properties <;> simp [AllEncodable]

/-- The level of a heading is written as a numeral and puts no condition on the text. -/
theorem isEncodable_heading {level : Int} {text : Text} :
    (heading level text).print.IsEncodable ↔ text.IsEncodable := by
  unfold heading
  rw [isEncodable_paragraph]
  simp [styleReference]

theorem isEncodable_codeBlock {code : Text} :
    (codeBlock code).print.IsEncodable ↔ code.IsEncodable := by
  unfold codeBlock
  rw [isEncodable_paragraph]
  simp [styleReference]

theorem isEncodable_horizontalRule : horizontalRule.print.IsEncodable := by
  unfold horizontalRule
  rw [isEncodable_paragraph]
  simp

theorem allEncodable_itemProperties {style : Text} {list level : Int} :
    AllEncodable (itemProperties style list level) ↔ style.IsEncodable := by
  unfold itemProperties
  simp [styleReference]

/-- The words of an image are written twice and its source not at all. -/
theorem isEncodable_image {number : Nat} {altText : Text} :
    (image number altText).print.IsEncodable ↔ altText.IsEncodable := by
  unfold image
  simp

/-- A cell that is empty is filled with an empty paragraph, which holds nothing. -/
theorem isEncodable_tableCell {columnWidth : Int} {content : List Markup} :
    (tableCell columnWidth content).print.IsEncodable ↔ AllEncodable content := by
  unfold tableCell width
  cases content <;> simp [AllEncodable]

/-- The cells that fill up a row hold nothing. -/
theorem isEncodable_tableRow {count : Nat} {columnWidth : Int} {row : RowMarkup} :
    (tableRow count columnWidth row).print.IsEncodable
      ↔ ∀ content ∈ row.cells, AllEncodable content := by
  have hheader : AllEncodable
      (if row.header then [.element "w:trPr" [] [.empty "w:tblHeader" []]] else []) := by
    simp
  have hpadding : ∀ content ∈ List.replicate (count - row.cells.length) ([] : List Markup),
      AllEncodable content := by
    intro content hcontent
    rw [List.eq_of_mem_replicate hcontent]
    exact allEncodable_nil
  unfold tableRow
  rw [isEncodable_bare, allEncodable_append, allEncodable_map]
  simp only [isEncodable_tableCell, List.forall_mem_append]
  exact ⟨fun h => h.2.1, fun h => ⟨hheader, h, hpadding⟩⟩

/-- A table is judged by the content of its cells, also if it has no rows and is not written. -/
theorem allEncodable_table {contentWidth : Int} {rows : List RowMarkup} :
    AllEncodable (table contentWidth rows)
      ↔ ∀ row ∈ rows, ∀ content ∈ row.cells, AllEncodable content := by
  cases rows with
  | nil => simp [table]
  | cons first rest =>
    have hgrid : ∀ (count : Nat) (columnWidth : Int), AllEncodable
        (List.replicate count (.empty "w:gridCol" [.int "w:w" columnWidth])) := by
      intro count columnWidth m hm
      rw [List.eq_of_mem_replicate hm]
      simp
    -- the style, the width and the grid of the table are fixed or numbers
    have hproperties : ∀ (count : Nat) (columnWidth total : Int), AllEncodable
        [.element "w:tblPr" [] [value "w:tblStyle" "TableGrid", width "w:tblW" total],
          .element "w:tblGrid" []
            (List.replicate count (.empty "w:gridCol" [.int "w:w" columnWidth]))] := by
      intro count columnWidth total
      rw [allEncodable_cons, allEncodable_cons, isEncodable_bare, isEncodable_bare]
      exact ⟨by simp [width], hgrid count columnWidth, allEncodable_nil⟩
    show AllEncodable [.element "w:tbl" []
      ([.element "w:tblPr" [] _, .element "w:tblGrid" [] _] ++
        (first :: rest).map (tableRow _ _))] ↔ _
    rw [allEncodable_cons, isEncodable_bare, allEncodable_append, allEncodable_map]
    simp only [isEncodable_tableRow]
    exact ⟨fun h => h.1.2, fun h => ⟨⟨hproperties _ _ _, h⟩, allEncodable_nil⟩⟩

end Markup

/-! ## Elements

One lemma for each function of the walk. It hands down the style of the paragraphs in a cell, which
holds no surrogate. -/

section Walk

variable {p : BodyPolicy}

/-- The items of a list are pieces, one for each (`Piece.sequence`). -/
theorem allEncodable_items {style : Text} (hstyle : style.IsEncodable) (list : Int)
    (items : List ListItem) :
    AllEncodable (ListItem.allMarkup p.links style list items)
      ↔ ∀ piece ∈ items.map (fun item => Piece.sequence item.runs),
          AllEncodable (piece.markup p.links) := by
  unfold ListItem.allMarkup
  rw [allEncodable_map, List.forall_mem_map]
  simp only [isEncodable_paragraph, allEncodable_itemProperties, hstyle, true_and]
  rfl

theorem isEncodable_cellStyle (header : Bool) : (cellStyle header).IsEncodable := by
  cases header <;> exact Text.isEncodable_ofString _

mutual

/-- An element is judged by the pieces in it and by the words of the images in it, at any depth. -/
theorem allEncodable_element (p : BodyPolicy) {cell : Option Text}
    (hcell : ∀ style ∈ cell, style.IsEncodable) (next : Nat) (e : Element) :
    AllEncodable (e.markup p cell next)
      ↔ (∀ piece ∈ e.pieces, AllEncodable (piece.markup p.links)) ∧
        ∀ t ∈ e.altTexts, t.IsEncodable := by
  cases e with
  | heading level text =>
    rw [Element.markup, allEncodable_cons, isEncodable_heading]
    simp [Element.pieces, Element.altTexts, Piece.markup]
  | paragraph runs =>
    -- the style of the paragraph in a cell is fixed
    have hstyle : AllEncodable (cell.toList.map fun style => styleReference style) := by
      rw [allEncodable_map]
      intro style hstyle
      exact isEncodable_value.mpr (hcell style (Option.mem_toList.mp hstyle))
    rw [Element.markup, allEncodable_cons, isEncodable_paragraph]
    simp [Element.pieces, Element.altTexts, Piece.markup, hstyle]
  | quote runs =>
    rw [Element.markup, allEncodable_cons, isEncodable_paragraph]
    simp [Element.pieces, Element.altTexts, Piece.markup, styleReference]
  | bulletList items =>
    rw [Element.markup, allEncodable_items (Text.isEncodable_ofString _)]
    simp [Element.pieces, Element.altTexts]
  | numberedList items =>
    rw [Element.markup, allEncodable_items (Text.isEncodable_ofString _)]
    simp [Element.pieces, Element.altTexts]
  | codeBlock language code =>
    rw [Element.markup, allEncodable_cons, isEncodable_codeBlock]
    simp [Element.pieces, Element.altTexts, Piece.markup]
  | table rows =>
    rw [Element.markup, allEncodable_table]
    exact allEncodable_rows p next rows
  | horizontalRule =>
    rw [Element.markup, allEncodable_cons]
    simp [Element.pieces, Element.altTexts, isEncodable_horizontalRule]
  | image altText source =>
    rw [Element.markup, allEncodable_cons, isEncodable_image]
    simp [Element.pieces, Element.altTexts]
  | loneRun _ => simp [Element.markup, Element.pieces, Element.altTexts]
  | loneItem _ => simp [Element.markup, Element.pieces, Element.altTexts]
  | loneRow _ => simp [Element.markup, Element.pieces, Element.altTexts]
  | loneCell _ => simp [Element.markup, Element.pieces, Element.altTexts]

/-- The same for rows, whose cells take the style of the row. -/
theorem allEncodable_rows (p : BodyPolicy) (next : Nat) (rows : List Row) :
    (∀ row ∈ Row.allMarkup p next rows, ∀ content ∈ row.cells, AllEncodable content)
      ↔ (∀ piece ∈ Row.allPieces rows, AllEncodable (piece.markup p.links)) ∧
        ∀ t ∈ Row.allAltTexts rows, t.IsEncodable := by
  cases rows with
  | nil => simp [Row.allMarkup, Row.allPieces, Row.allAltTexts]
  | cons row rows =>
    -- a row gathers what its cells gather: the pieces first, then the words of images
    obtain ⟨cells, header⟩ := row
    rw [Row.allMarkup, Row.allPieces, Row.allAltTexts, List.forall_mem_cons,
      List.forall_mem_append, List.forall_mem_append, allEncodable_rows p _ rows,
      allEncodable_cells p (isEncodable_cellStyle header) next cells]
    exact and_and_and_comm

theorem allEncodable_cells (p : BodyPolicy) {style : Text} (hstyle : style.IsEncodable)
    (next : Nat) (cells : List Cell) :
    (∀ content ∈ Cell.allMarkup p style next cells, AllEncodable content)
      ↔ (∀ piece ∈ Cell.allPieces cells, AllEncodable (piece.markup p.links)) ∧
        ∀ t ∈ Cell.allAltTexts cells, t.IsEncodable := by
  cases cells with
  | nil => simp [Cell.allMarkup, Cell.allPieces, Cell.allAltTexts]
  | cons cell cells =>
    obtain ⟨content⟩ := cell
    -- the style that is handed down to the paragraphs of a cell
    have hcell : ∀ t ∈ some style, t.IsEncodable := by
      rintro t ⟨⟩
      exact hstyle
    rw [Cell.allMarkup, Cell.allPieces, Cell.allAltTexts, List.forall_mem_cons,
      List.forall_mem_append, List.forall_mem_append, allEncodable_cells p hstyle _ cells,
      allEncodable_elements p hcell next content]
    exact and_and_and_comm

/-- A sequence of elements is judged by all its pieces and by the words of all its images. -/
theorem allEncodable_elements (p : BodyPolicy) {cell : Option Text}
    (hcell : ∀ style ∈ cell, style.IsEncodable) (next : Nat) (es : List Element) :
    AllEncodable (Element.allMarkup p cell next es)
      ↔ (∀ piece ∈ Element.allPieces es, AllEncodable (piece.markup p.links)) ∧
        ∀ t ∈ Element.allAltTexts es, t.IsEncodable := by
  cases es with
  | nil => simp [Element.allMarkup, Element.allPieces, Element.allAltTexts]
  | cons e es =>
    rw [Element.allMarkup, Element.allPieces, Element.allAltTexts, allEncodable_append,
      List.forall_mem_append, List.forall_mem_append, allEncodable_element p hcell next e,
      allEncodable_elements p hcell _ es]
    exact and_and_and_comm

end

end Walk

/-! ## Pieces and relationships

A document is judged by the texts it shows, collected over all its pieces, and the relationships part
by the targets of its table. Only there are the targets written in hyperlink mode. -/

/-- The texts that a piece shows. -/
def Piece.texts : Piece → List Text
  | .sequence runs => runs.map (·.text)
  | .text t => [t]

/-- Pieces write their texts, the colour of links if there is a link, and the targets if targets are
shown. -/
theorem allEncodable_pieces {p : LinkPolicy} (pieces : List Piece) :
    (∀ piece ∈ pieces, AllEncodable (piece.markup p))
      ↔ (∀ t ∈ pieces.flatMap Piece.texts, t.IsEncodable) ∧
        (Piece.allTargets pieces ≠ [] → p.color.IsEncodable) ∧
        (p.mode = .inlineUrl → ∀ target ∈ Piece.allTargets pieces, target.IsEncodable) := by
  induction pieces with
  | nil => simp [Piece.allTargets]
  | cons piece pieces ih =>
    rw [List.forall_mem_cons, ih, List.flatMap_cons, List.forall_mem_append]
    cases piece with
    | text t =>
      have htargets : Piece.allTargets (.text t :: pieces) = Piece.allTargets pieces := rfl
      have htext : AllEncodable ((Piece.text t).markup p) ↔ ∀ u ∈ (Piece.text t).texts,
          u.IsEncodable := by
        simp [Piece.markup, Piece.texts]
      rw [htargets, htext, and_assoc]
    | sequence runs =>
      have htargets : Piece.allTargets (.sequence runs :: pieces)
          = Run.targets runs ++ Piece.allTargets pieces := rfl
      have htexts : (∀ u ∈ (Piece.sequence runs).texts, u.IsEncodable)
          ↔ ∀ r ∈ runs, r.text.IsEncodable :=
        List.forall_mem_map
      -- the colour is written if there is a link here or further on
      have hlinked : Run.targets runs ++ Piece.allTargets pieces ≠ []
          ↔ Run.targets runs ≠ [] ∨ Piece.allTargets pieces ≠ [] := by
        rw [ne_eq, List.append_eq_nil_iff, not_and_or]
      rw [htargets, htexts, hlinked, Piece.markup, Run.allEncodable_allMarkup,
        List.forall_mem_append]
      -- both sides are the same conditions, sorted by piece and by kind
      constructor
      · rintro ⟨⟨htexts, hcolor, hshown⟩, htexts', hcolor', hshown'⟩
        exact ⟨⟨htexts, htexts'⟩, fun h => h.elim hcolor hcolor',
          fun hmode => ⟨hshown hmode, hshown' hmode⟩⟩
      · rintro ⟨⟨htexts, htexts'⟩, hcolor, hshown⟩
        exact ⟨⟨htexts, fun h => hcolor (Or.inl h), fun hmode => (hshown hmode).1⟩, htexts',
          fun h => hcolor (Or.inr h), fun hmode => (hshown hmode).2⟩

/-- The relationships write the targets of the table, stripped and escaped, besides fixed entries. -/
theorem LinkTable.isEncodable_relationships (t : LinkTable) :
    t.relationships.print.IsEncodable ↔ ∀ target ∈ t.targets, target.IsEncodable := by
  have hentry : ∀ (target : Text) (i : Nat),
      (Vocabulary.relationship (relationName (firstNumber + i)) "hyperlink" target.strip
        [.fixed "TargetMode" "External"]).print.IsEncodable ↔ target.IsEncodable := by
    intro target i
    simp [Vocabulary.relationship, relationName]
  unfold relationships Vocabulary.relationshipList entries
  rw [isEncodable_print_element, List.forall_mem_append, List.map_map, List.forall_mem_map]
  simp only [Function.comp_apply, hentry]
  rw [forall_mem_zipIdx_fst (P := Text.IsEncodable)]
  simp [Vocabulary.relationship, relationName]

end Wordsmith
