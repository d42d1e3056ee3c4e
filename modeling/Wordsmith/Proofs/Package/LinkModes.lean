import Wordsmith.Proofs.Markup.Unlink
import Wordsmith.Proofs.Package.Pieces

/-!
# Link modes

Two link modes can be told in terms of the third, in which links are only coloured. Where targets
are shown as text, the document part is that of a document in which the targets have been spelled
out and the linked runs underlined; where links are hyperlinks, it is that of a document with the
linked runs underlined, but for the tags of the hyperlinks.

Both follow from one walk over the elements: what a link mode does to a sequence of runs, it does to
every sequence of the document, and it does nothing else (`unlinks_elements`).

* `Run.spellOut`, `Run.underlineLinked` — what the two modes do to a sequence of runs.
* `Run.allMarkup_spellOut`, `Run.unlinkAll_allMarkup` — that this is what they do, as markup.
* `linkModes_desugar` — and as text of the document part.
-/

namespace Wordsmith

open Markup

/-! ## The translations

A translation changes sequences of runs and nothing else of an element, in the cells of tables as well
(`Element.mapRuns`). Since no image is a run, images keep their numbers. -/

/-- The style with this link mode. -/
def Style.inMode (s : Style) (mode : LinkMode) : Style := { s with linkMode := mode }

namespace Run

/-- The run underlined, if it is linked. -/
def underlineLinked (r : Run) : Run := if r.target?.isSome then { r with underlined := true } else r

/-- The runs, linked ones underlined, with the target of each linked group after it. -/
def spellOut (runs : List Run) : List Run :=
  (groups runs).flatMap fun group =>
    group.map underlineLinked ++
      (groupTarget? group).toList.map fun target => { text := " (" ++ target ++ ")" }

end Run

/-- The item with its runs changed. -/
def ListItem.mapRuns (f : List Run → List Run) (item : ListItem) : ListItem :=
  { item with runs := f item.runs }

mutual

/-- An element with its run sequences changed, in the cells of tables too. A part of an element that
stands alone is not written, and stays as it is. -/
def Element.mapRuns (f : List Run → List Run) : Element → Element
  | .paragraph runs => .paragraph (f runs)
  | .quote runs => .quote (f runs)
  | .bulletList items => .bulletList (items.map (ListItem.mapRuns f))
  | .numberedList items => .numberedList (items.map (ListItem.mapRuns f))
  | .table rows => .table (Row.mapAllRuns f rows)
  | e => e

/-- The rows of a table with the run sequences in their cells changed. -/
def Row.mapAllRuns (f : List Run → List Run) : List Row → List Row
  | [] => []
  | ⟨cells, header⟩ :: rows => ⟨Cell.mapAllRuns f cells, header⟩ :: Row.mapAllRuns f rows

/-- The cells of a row with the run sequences in them changed. -/
def Cell.mapAllRuns (f : List Run → List Run) : List Cell → List Cell
  | [] => []
  | ⟨content⟩ :: cells => ⟨Element.mapAllRuns f content⟩ :: Cell.mapAllRuns f cells

/-- A sequence of elements with its run sequences changed. -/
def Element.mapAllRuns (f : List Run → List Run) : List Element → List Element
  | [] => []
  | e :: es => e.mapRuns f :: Element.mapAllRuns f es

end

section Images

variable (f : List Run → List Run)

mutual

/-- An element has as many images as before. -/
theorem Element.imageCount_mapRuns (e : Element) : (e.mapRuns f).imageCount = e.imageCount := by
  cases e with
  | table rows => exact Row.imageCounts_mapAllRuns rows
  | heading => rfl
  | paragraph => rfl
  | quote => rfl
  | bulletList => rfl
  | numberedList => rfl
  | codeBlock => rfl
  | horizontalRule => rfl
  | image => rfl
  | loneRun => rfl
  | loneItem => rfl
  | loneRow => rfl
  | loneCell => rfl

/-- So have the rows of a table. -/
theorem Row.imageCounts_mapAllRuns (rows : List Row) :
    Row.imageCounts (Row.mapAllRuns f rows) = Row.imageCounts rows := by
  cases rows with
  | nil => rfl
  | cons row rows =>
    obtain ⟨cells, header⟩ := row
    rw [Row.mapAllRuns, Row.imageCounts, Row.imageCounts, Cell.imageCounts_mapAllRuns cells,
      Row.imageCounts_mapAllRuns rows]

/-- And the cells of a row. -/
theorem Cell.imageCounts_mapAllRuns (cells : List Cell) :
    Cell.imageCounts (Cell.mapAllRuns f cells) = Cell.imageCounts cells := by
  cases cells with
  | nil => rfl
  | cons cell cells =>
    obtain ⟨content⟩ := cell
    rw [Cell.mapAllRuns, Cell.imageCounts, Cell.imageCounts, Element.imageCounts_mapAllRuns content,
      Cell.imageCounts_mapAllRuns cells]

/-- Images keep their numbers, whatever happens to the runs. -/
theorem Element.imageCounts_mapAllRuns (es : List Element) :
    Element.imageCounts (Element.mapAllRuns f es) = Element.imageCounts es := by
  cases es with
  | nil => rfl
  | cons e es =>
    rw [Element.mapAllRuns, Element.imageCounts, Element.imageCounts, Element.imageCount_mapRuns e,
      Element.imageCounts_mapAllRuns es]

end

end Images

/-! ## Sequences of runs

In the mode of coloured text a run is written alone (`allMarkup_of_coloredText`). The other modes write
group by group, and the proofs compare the groups. -/

namespace Run

/-- A line under a run does not change where it leads. -/
theorem target?_underlineLinked (r : Run) : r.underlineLinked.target? = r.target? := by
  unfold underlineLinked
  split <;> rfl

/-- The mark of the line, as one condition. -/
theorem underlineLinked_eq (r : Run) :
    r.underlineLinked = { r with underlined := r.underlined || r.target?.isSome } := by
  unfold underlineLinked
  cases r.target? <;> simp

/-- A run that is underlined for its link needs no link mode that underlines it. -/
theorem markup_underlineLinked {p p' : LinkPolicy} (hmode : p.mode ≠ .coloredText)
    (hcolor : p'.color = p.color) (r : Run) :
    r.underlineLinked.markup p' = r.markup p := by
  have hproperties : r.underlineLinked.properties p' = r.properties p := by
    unfold properties
    rw [target?_underlineLinked, underlineLinked_eq, hcolor]
    cases r.target? with
    | none =>
      -- without a target there is neither a colour nor a line for it, in any mode
      simp
    | some target =>
      -- the link stays, so the run keeps its colour
      simp [hmode]
  have htext : r.underlineLinked.text = r.text := by rw [underlineLinked_eq]
  unfold markup
  rw [hproperties, htext]

/-- The same of many runs. -/
theorem map_markup_underlineLinked {p p' : LinkPolicy} (hmode : p.mode ≠ .coloredText)
    (hcolor : p'.color = p.color) (runs : List Run) :
    (runs.map underlineLinked).map (markup p') = runs.map (markup p) := by
  rw [List.map_map]
  exact List.map_congr_left fun r _ => markup_underlineLinked hmode hcolor r

/-- In the mode of coloured text each run stands for itself. -/
theorem allMarkup_of_coloredText {p : LinkPolicy} (hmode : p.mode = .coloredText)
    (runs : List Run) : allMarkup p runs = runs.map (markup p) := by
  have hgroup : ∀ group ∈ groups runs, groupMarkup p (groupLink group) group
      = group.map (markup p) := fun _ _ => groupMarkup_of_coloredText hmode
  rw [allMarkup_eq, List.flatMap_congr hgroup, flatMap_map_groups]

/-- Where targets are shown, the runs are written as those with the targets spelled out. -/
theorem allMarkup_spellOut {p p' : LinkPolicy} (hmode : p.mode = .inlineUrl)
    (hmode' : p'.mode = .coloredText) (hcolor : p'.color = p.color) (runs : List Run) :
    allMarkup p' (spellOut runs) = allMarkup p runs := by
  have hne : p.mode ≠ .coloredText := by rw [hmode]; decide
  rw [allMarkup_of_coloredText hmode', spellOut, List.map_flatMap, allMarkup_eq]
  apply List.flatMap_congr
  intro group _
  rw [List.map_append, map_markup_underlineLinked hne hcolor]
  cases htarget : groupTarget? group with
  | none =>
    rw [groupMarkup_of_none htarget]
    exact List.append_nil _
  | some target =>
    -- the run that shows the target is not linked itself
    have hshown : (shownTarget target).underlineLinked = shownTarget target := rfl
    have hmarkup := markup_underlineLinked hne hcolor (shownTarget target)
    rw [hshown] at hmarkup
    rw [groupMarkup_of_inlineUrl hmode htarget, ← hmarkup]
    rfl

/-- Where targets are shown, there is no hyperlink. -/
theorem find_hyperlink_allMarkup {p : LinkPolicy} (hmode : p.mode = .inlineUrl) (runs : List Run) :
    find "w:hyperlink" (allMarkup p runs) = [] := by
  -- in coloured text there are no hyperlinks, and the part is one of coloured text
  let p' : LinkPolicy := ⟨.coloredText, p.color, p.table⟩
  have hmode' : p'.mode = .coloredText := rfl
  have hcolor : p'.color = p.color := rfl
  rw [← allMarkup_spellOut hmode hmode' hcolor, allMarkup_of_coloredText hmode',
    find_hyperlink_runs]

/-- Without hyperlinks, a sequence of runs is written as that with the linked runs underlined. -/
theorem unlinkAll_allMarkup {p p' : LinkPolicy} (hmode : p.mode = .hyperlink)
    (hmode' : p'.mode = .coloredText) (hcolor : p'.color = p.color) (runs : List Run) :
    unlinkAll (allMarkup p runs) = allMarkup p' (runs.map underlineLinked) := by
  have hne : p.mode ≠ .coloredText := by rw [hmode]; decide
  -- runs alone have no links in them
  have hbody : ∀ group : List Run, unlinkAll (group.map (markup p)) = group.map (markup p) :=
    fun group => unlinkAll_of_find_eq_nil (find_hyperlink_runs group)
  have hgroup : ∀ group ∈ groups runs, unlinkAll (groupMarkup p (groupLink group) group)
      = group.map (markup p) := by
    intro group _
    cases htarget : groupTarget? group with
    | none => rw [groupMarkup_of_none htarget, hbody]
    | some target =>
      cases hname : p.table.name? target with
      -- a target without an entry in the table is not linked
      | none => rw [groupMarkup_of_name_none hmode htarget hname, hbody]
      | some name => rw [groupMarkup_of_name hmode htarget hname, unlinkAll_link, hbody]
  rw [allMarkup_eq, unlinkAll_flatMap, List.flatMap_congr hgroup, flatMap_map_groups,
    allMarkup_of_coloredText hmode', map_markup_underlineLinked hne hcolor]

end Run

/-! ## Blocks

The relation `Unlinks` is a congruence for everything that is written around runs. It also keeps track
of whether there is anything at all, since a cell without content gets an empty paragraph. -/

namespace Markup

/-- One sequence of markup is another without its links, and is empty only if the other is: a cell of
a table is written differently if it is empty. -/
structure Unlinks (ms ns : List Markup) : Prop where
  eq : unlinkAll ms = ns
  empty : ns = [] ↔ ms = []

variable {ms ns : List Markup}

/-- Nothing is nothing without its links. -/
theorem Unlinks.nil : Unlinks [] [] := ⟨rfl, Iff.rfl⟩

/-- One piece after another. -/
theorem Unlinks.append {ms' ns' : List Markup} (h : Unlinks ms ns) (h' : Unlinks ms' ns') :
    Unlinks (ms ++ ms') (ns ++ ns') where
  eq := by rw [unlinkAll_append, h.eq, h'.eq]
  empty := by rw [List.append_eq_nil_iff, List.append_eq_nil_iff, h.empty, h'.empty]

/-- What has no links in it stays as it is. -/
theorem Unlinks.refl (h : find "w:hyperlink" ms = []) : Unlinks ms ms :=
  ⟨unlinkAll_of_find_eq_nil h, Iff.rfl⟩

/-- An element around markup, if it is no link itself. -/
theorem Unlinks.element {tag : String} {attributes : List Attribute} (htag : tag ≠ "w:hyperlink")
    (h : unlinkAll ms = ns) :
    Unlinks [.element tag attributes ms] [.element tag attributes ns] :=
  ⟨by rw [unlinkAll_element_of_ne htag, h], by simp⟩

/-- A paragraph, of which only the content changes. -/
theorem Unlinks.paragraph {properties : List Markup}
    (hproperties : find "w:hyperlink" properties = []) (h : unlinkAll ms = ns) :
    Unlinks [.paragraph properties ms] [.paragraph properties ns] := by
  refine .element (by decide) ?_
  rw [unlinkAll_append, h, unlinkAll_of_find_eq_nil]
  split
  · rfl
  · rw [find_element_of_ne (by decide), hproperties]

/-- Pieces that are written one by one, such as items and cells. -/
theorem Unlinks.map {α β : Type} {f : α → Markup} {g : β → Markup} {xs : List α} {ys : List β}
    (h : List.Forall₂ (fun x y => Unlinks [f x] [g y]) xs ys) : Unlinks (xs.map f) (ys.map g) := by
  induction h with
  | nil => exact .nil
  | cons hx _ ih => exact hx.append ih

/-- A cell, empty or not. -/
theorem Unlinks.tableCell {columnWidth : Int} (h : Unlinks ms ns) :
    Unlinks [.tableCell columnWidth ms] [.tableCell columnWidth ns] := by
  refine .element (by decide) ?_
  rw [unlinkAll, ← unlinkAll_singleton,
    unlinkAll_of_find_eq_nil (find_cellProperties (by decide) columnWidth), List.singleton_append]
  -- an empty cell holds an empty paragraph, on both sides or on neither
  cases ms with
  | nil =>
    rw [h.empty.mpr rfl]
    exact congrArg _ (unlinkAll_of_find_eq_nil (find_empty_of_ne (by decide)))
  | cons m ms =>
    cases ns with
    | nil => exact absurd (h.empty.mp rfl) (List.cons_ne_nil m ms)
    | cons n ns => exact congrArg _ h.eq

end Markup

/-- The cells of a row are those of another without their links. -/
structure RowMarkup.Unlinks (row row' : RowMarkup) : Prop where
  header : row'.header = row.header
  cells : List.Forall₂ Markup.Unlinks row.cells row'.cells

namespace Markup

/-- A row, with the cells that fill it up. -/
theorem Unlinks.tableRow (count : Nat) (columnWidth : Int) {row row' : RowMarkup}
    (h : row.Unlinks row') :
    Unlinks [.tableRow count columnWidth row] [.tableRow count columnWidth row'] := by
  refine .element (by decide) ?_
  have hcells : List.Forall₂ (fun ms ns => Unlinks
      [Markup.tableCell columnWidth ms] [Markup.tableCell columnWidth ns])
      (row.cells ++ List.replicate (count - row.cells.length) [])
      (row'.cells ++ List.replicate (count - row'.cells.length) []) := by
    -- both rows lack the same number of cells
    rw [h.cells.length_eq]
    refine List.rel_append (h.cells.imp fun _ _ => Unlinks.tableCell) ?_
    exact List.forall₂_same.mpr fun ms hms => by
      rw [List.eq_of_mem_replicate hms]
      exact .tableCell .nil
  rw [unlinkAll_append, unlinkAll_of_find_eq_nil (find_rowProperties (by decide) row.header),
    h.header, (Unlinks.map hcells).eq]

/-- A table, whose columns and widths depend on the number of cells alone. -/
theorem Unlinks.table {contentWidth : Int} {rows rows' : List RowMarkup}
    (h : List.Forall₂ RowMarkup.Unlinks rows rows') :
    Unlinks (Markup.table contentWidth rows) (Markup.table contentWidth rows') := by
  cases h with
  | nil => exact .nil
  | @cons first first' rest rest' hfirst hrest =>
    refine .element (by decide) ?_
    -- the first row fixes the columns, so it has to keep its length
    have hlength : first'.cells.length = first.cells.length := hfirst.cells.length_eq.symm
    have hrows := Unlinks.map ((List.Forall₂.cons hfirst hrest).imp fun _ _ h =>
      Unlinks.tableRow (max first.cells.length 1)
        (columnWidth contentWidth (max first.cells.length 1 : Nat)) h)
    rw [hlength, unlinkAll_append, hrows.eq,
      unlinkAll_of_find_eq_nil (find_tableProperties (by decide) _ _ _)]

end Markup

/-! ## The walk over the elements

Links are numbered by the elements, so the two documents have tables of links of their own, and the
policies differ. All that is asked of them is `BodyPolicy.Unlinks`, a statement about single sequences
of runs. -/

section Walk

/-- Two policies differ in their links alone, and the second writes a changed sequence of runs as the
first writes the sequence, but for hyperlinks. -/
structure BodyPolicy.Unlinks (p p' : BodyPolicy) (f : List Run → List Run) : Prop where
  contentWidth : p'.contentWidth = p.contentWidth
  runs : ∀ runs, unlinkAll (Run.allMarkup p.links runs) = Run.allMarkup p'.links (f runs)

variable {p p' : BodyPolicy} {f : List Run → List Run}

/-- The items of a list. -/
theorem unlinks_items (h : p.Unlinks p' f) (style : Text) (list : Int) (items : List ListItem) :
    Unlinks (ListItem.allMarkup p.links style list items)
      (ListItem.allMarkup p'.links style list (items.map (ListItem.mapRuns f))) := by
  apply Unlinks.map
  rw [List.forall₂_map_right_iff]
  exact List.forall₂_same.mpr fun item _ =>
    .paragraph (find_itemProperties (by decide) _ _ _) (h.runs item.runs)

mutual

/-- An element. -/
theorem unlinks_element (h : p.Unlinks p' f) (cell : Option Text) (next : Nat) (e : Element) :
    Unlinks (e.markup p cell next) ((e.mapRuns f).markup p' cell next) := by
  cases e with
  | heading level text =>
    refine .refl ?_
    rw [Element.markup, find_heading (by decide), find_hyperlink_runText]
  | paragraph runs =>
    -- the style of the cell is written before the runs
    have hstyle : find "w:hyperlink" (cell.toList.map fun style => styleReference style) = [] := by
      apply find_eq_nil
      intro m hm
      obtain ⟨style, -, rfl⟩ := List.mem_map.mp hm
      exact find_empty_of_ne (by decide)
    exact .paragraph hstyle (h.runs runs)
  | quote runs => exact .paragraph (find_empty_of_ne (by decide)) (h.runs runs)
  | bulletList items => exact unlinks_items h _ _ items
  | numberedList items => exact unlinks_items h _ _ items
  | codeBlock language code =>
    refine .refl ?_
    rw [Element.markup, find_codeBlock (by decide), find_hyperlink_runText]
  | table rows =>
    rw [Element.mapRuns, Element.markup, Element.markup, h.contentWidth]
    exact .table (unlinks_rows h next rows)
  | horizontalRule => exact .refl (find_horizontalRule (by decide))
  | image altText source => exact .refl (find_image (by decide) next altText)
  | loneRun _ => exact .nil
  | loneItem _ => exact .nil
  | loneRow _ => exact .nil
  | loneCell _ => exact .nil

/-- The rows of a table. -/
theorem unlinks_rows (h : p.Unlinks p' f) (next : Nat) (rows : List Row) :
    List.Forall₂ RowMarkup.Unlinks (Row.allMarkup p next rows)
      (Row.allMarkup p' next (Row.mapAllRuns f rows)) := by
  cases rows with
  | nil => exact .nil
  | cons row rows =>
    obtain ⟨cells, header⟩ := row
    rw [Row.mapAllRuns, Row.allMarkup, Row.allMarkup, Cell.imageCounts_mapAllRuns]
    exact .cons ⟨rfl, unlinks_cells h _ next cells⟩ (unlinks_rows h _ rows)

/-- The cells of a row. -/
theorem unlinks_cells (h : p.Unlinks p' f) (style : Text) (next : Nat) (cells : List Cell) :
    List.Forall₂ Unlinks (Cell.allMarkup p style next cells)
      (Cell.allMarkup p' style next (Cell.mapAllRuns f cells)) := by
  cases cells with
  | nil => exact .nil
  | cons cell cells =>
    obtain ⟨content⟩ := cell
    rw [Cell.mapAllRuns, Cell.allMarkup, Cell.allMarkup, Element.imageCounts_mapAllRuns]
    exact .cons (unlinks_elements h _ next content) (unlinks_cells h style _ cells)

/-- What holds of every sequence of runs holds of all that is written. -/
theorem unlinks_elements (h : p.Unlinks p' f) (cell : Option Text) (next : Nat)
    (es : List Element) :
    Unlinks (Element.allMarkup p cell next es)
      (Element.allMarkup p' cell next (Element.mapAllRuns f es)) := by
  cases es with
  | nil => exact .nil
  | cons e es =>
    rw [Element.mapAllRuns, Element.allMarkup, Element.allMarkup, Element.imageCount_mapRuns]
    exact (unlinks_element h cell next e).append (unlinks_elements h cell _ es)

end

/-- The whole document, of which the section at its end has no links. -/
theorem unlink_documentMarkup (h : p.Unlinks p' f) (size : PageSize) (margins : PageMargins)
    (es : List Element) :
    unlink (documentMarkup p size margins es)
      = [documentMarkup p' size margins (Element.mapAllRuns f es)] := by
  have hsection : unlinkAll [sectionMarkup size margins] = [sectionMarkup size margins] :=
    unlinkAll_of_find_eq_nil (find_section (by decide) size margins)
  rw [← unlinkAll_singleton]
  unfold documentMarkup
  rw [unlinkAll_element_of_ne (by decide), unlinkAll_element_of_ne (by decide), unlinkAll_append,
    (unlinks_elements h none 1 es).eq, hsection]

end Walk

/-! ## The document part

From markup to text. What shows targets as text is equal to begin with; for hyperlinks the tags are
erased from the text, so the tags of the part have to be told from each other. -/

/-- Among the tags of the document part, that of a link can be told from the others. -/
theorem documentLexicon_tellsLinks {color : Text} (h : ∀ c ∈ color, c ≠ '<') :
    (documentLexicon color).TellsLinks where
  toNamed := documentLexicon_named color
  tags := by
    show ∀ e ∈ frameTags ++ elementTags, _
    decide
  verbatim := by
    -- the only verbatim value is the colour
    rintro tag t ⟨rfl, rfl⟩
    exact ⟨by decide, h⟩

/-- Erasing the tags of hyperlinks from a document part takes the hyperlinks out of its markup. -/
theorem eraseLinkTags_print_document {color : Text} (hcolor : ∀ c ∈ color, c ≠ '<') {m n : Markup}
    (hm : Within (documentLexicon color) m) (hunlink : unlink m = [n]) :
    Text.eraseLinkTags false (Vocabulary.print m) = Vocabulary.print n := by
  have hdeclaration : Vocabulary.declaration
      = "<" ++ Text.ofString "?xml version=\"1.0\" encoding=\"UTF-8\" standalone=\"yes\"?>" := rfl
  -- the declaration starts like a tag, but not like one of a link
  have hstart : ¬Text.StartsLinkTag (Vocabulary.declaration ++ m.print) := by
    rw [hdeclaration]
    exact Text.not_startsLinkTag_of_apart (by decide) (by decide) m.print
  have hprint := hm.eraseLinkTags_print (documentLexicon_tellsLinks hcolor) []
  rw [List.append_nil, hunlink, printAll, printAll, List.append_nil] at hprint
  unfold Vocabulary.print
  rw [hdeclaration] at hstart ⊢
  rw [Text.eraseLinkTags_kept hstart (by decide), hprint]
  exact congrArg _ (List.append_nil _)

/-- The other link modes in terms of the one in which links are only coloured. Showing targets as
text is spelling them out after underlined runs; hyperlinks are tags around underlined runs. -/
theorem linkModes_desugar (s : Style) (es : List Element) (hcolor : ∀ c ∈ s.linkColor, c ≠ '<') :
    (s.inMode .inlineUrl).partText es .document
        = (s.inMode .coloredText).partText (Element.mapAllRuns Run.spellOut es) .document ∧
      Text.eraseLinkTags false ((s.inMode .hyperlink).partText es .document)
        = (s.inMode .coloredText).partText
            (Element.mapAllRuns (List.map Run.underlineLinked) es) .document := by
  constructor
  · let p := (s.inMode .inlineUrl).bodyPolicy (Element.allLinks es)
    let p' := (s.inMode .coloredText).bodyPolicy
      (Element.allLinks (Element.mapAllRuns Run.spellOut es))
    have hruns : ∀ runs, Run.allMarkup p'.links (Run.spellOut runs) = Run.allMarkup p.links runs :=
      Run.allMarkup_spellOut rfl rfl rfl
    have hunlinks : p.Unlinks p' Run.spellOut := by
      refine ⟨rfl, fun runs => ?_⟩
      rw [hruns, unlinkAll_of_find_eq_nil (Run.find_hyperlink_allMarkup rfl runs)]
    -- there are no hyperlinks that could be taken away
    have hself : unlink (documentMarkup p s.pageSize s.pageMargins es)
        = [documentMarkup p s.pageSize s.pageMargins es] := by
      apply unlink_of_find_eq_nil
      rw [find_documentMarkup (by decide), List.flatMap_eq_nil_iff]
      intro piece _
      cases piece with
      | sequence runs => exact Run.find_hyperlink_allMarkup rfl runs
      | text t => exact find_hyperlink_runText t
    rw [unlink_documentMarkup hunlinks, List.cons_eq_cons] at hself
    exact congrArg Vocabulary.print hself.1.symm
  · have hunlinks : ((s.inMode .hyperlink).bodyPolicy (Element.allLinks es)).Unlinks
        ((s.inMode .coloredText).bodyPolicy
          (Element.allLinks (Element.mapAllRuns (List.map Run.underlineLinked) es)))
        (List.map Run.underlineLinked) :=
      ⟨rfl, Run.unlinkAll_allMarkup rfl rfl rfl⟩
    have hwithin := within_documentMarkup ((s.inMode .hyperlink).bodyPolicy (Element.allLinks es))
      s.pageSize s.pageMargins es
    exact eraseLinkTags_print_document hcolor hwithin (unlink_documentMarkup hunlinks _ _ es)

/-- A linked group of two runs in a cell of a table, and a run with an empty link after it. -/
def linkedCell : List Element :=
  [.table [⟨[⟨[.quote [{ text := "x", link := some "u" }, { text := "y", link := some "u" },
    { text := "z", link := some [] }]]⟩], false⟩]]

/-- The two runs of the cell are one group, whose target is shown once, and the run with an empty link
is neither underlined nor linked. -/
theorem linkModes_desugar_linkedCell :
    (({} : Style).inMode .inlineUrl).partText linkedCell .document
        = (({} : Style).inMode .coloredText).partText
          [.table [⟨[⟨[.quote [{ text := "x", underlined := true, link := some "u" },
            { text := "y", underlined := true, link := some "u" }, { text := " (u)" },
            { text := "z", link := some [] }]]⟩], false⟩]] .document ∧
      Text.eraseLinkTags false ((({} : Style).inMode .hyperlink).partText linkedCell .document)
        = (({} : Style).inMode .coloredText).partText
          [.table [⟨[⟨[.quote [{ text := "x", underlined := true, link := some "u" },
            { text := "y", underlined := true, link := some "u" },
            { text := "z", link := some [] }]]⟩], false⟩]] .document :=
  linkModes_desugar {} linkedCell (by decide)

end Wordsmith
