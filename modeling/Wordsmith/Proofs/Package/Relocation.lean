import Wordsmith.Proofs.Markup.Attributes
import Wordsmith.Proofs.Package.Hyperlinks

/-!
# Elements in another place

What is written for elements depends in three ways on the document that they stand in: pictures are
numbered on from those before, links have the names that the relationships give to their targets,
and the style chooses a colour for linked text. All three are attributes of tags that are used for
nothing else. So in another place the same elements are written with the same markup, but for these
attributes (`BodyPolicy.Relocates.elements`).

* `Markup.mapAttributes` changes attributes tag by tag, and `BodyPolicy.Relocates g p p' shift links`
  says that `g` turns what the policy `p` writes into what `p'` writes.
* `runs`, `paragraph`, `image`, `table` and the lemmas beside them follow one emitter each.
* `elements` and `document` put them together along the walk.

Three kinds of place use this: a document before or behind another one, a style with another colour for
links, and a style with other strings.
-/

namespace Wordsmith

open Markup

/-- The tags with attributes that depend on more than the element: the colour of a link, the name of
its relationship, and the number of a picture. -/
def placedTags : List String := ["w:color", "w:hyperlink", "wp:docPr"]

/-- The attributes that number a picture and describe it. -/
def pictureAttributes (number : Nat) (altText : Text) : List Attribute :=
  [.int "id" number, .verbatim "name" ("Picture " ++ Text.ofNat number),
    .escaped "descr" altText.strip]

/-- The attribute that names the relationship of a hyperlink. -/
def linkAttributes (name : Text) : List Attribute := [.verbatim "r:id" name]

/-- Changing attributes by `g` takes what one policy writes to what another writes, if pictures are
numbered `shift` further on and the links are among these. -/
structure BodyPolicy.Relocates (g : String → List Attribute → List Attribute) (p p' : BodyPolicy)
    (shift : Nat) (links : List Text) : Prop where
  contentWidth : p'.contentWidth = p.contentWidth
  mode : p'.links.mode = p.links.mode
  kept : ∀ tag attributes, tag ∉ placedTags → g tag attributes = attributes
  color : g "w:color" [⟨"w:val", p.links.color⟩] = [⟨"w:val", p'.links.color⟩]
  picture : ∀ number altText, g "wp:docPr" (pictureAttributes number altText)
    = pictureAttributes (number + shift) altText
  link : ∀ target ∈ links,
    (p.links.table.name? target).map (fun name => g "w:hyperlink" (linkAttributes name))
      = (p'.links.table.name? target).map linkAttributes

/-- The cells of a row before they are put into its markup. -/
def RowMarkup.mapAttributes (g : String → List Attribute → List Attribute) (row : RowMarkup) :
    RowMarkup :=
  ⟨row.header, row.cells.map (List.map (Markup.mapAttributes g))⟩

namespace BodyPolicy.Relocates

variable {g : String → List Attribute → List Attribute} {p p' : BodyPolicy} {shift : Nat}
  {links : List Text}

section Blocks

variable (h : Relocates g p p' shift links)

include h

/-! ## Runs

A run is linked by its own target, so both policies give it the same marks and differ in the colour.
Runs are then gathered into groups, which are enclosed in a hyperlink exactly if the table of the
policy has a name for their target (`Relocates.link`). -/

/-- An element of any other tag changes in its children alone. -/
theorem kept_element {tag : String} (htag : tag ∉ placedTags) (attributes : List Attribute)
    (ms : List Markup) :
    mapAttributes g (.element tag attributes ms)
      = .element tag attributes (ms.map (mapAttributes g)) := by
  rw [mapAttributes_element, h.kept tag attributes htag]

theorem kept_empty {tag : String} (htag : tag ∉ placedTags) (attributes : List Attribute) :
    mapAttributes g (.empty tag attributes) = .empty tag attributes := by
  rw [mapAttributes_empty, h.kept tag attributes htag]

theorem runText (t : Text) : mapAttributes g (.runText t) = .runText t := by
  rw [Markup.runText, h.kept_element (by decide), List.map_singleton, mapAttributes_text]

/-- Of the marks of a run only the colour of a link depends on the policy. -/
theorem properties (r : Run) :
    (r.properties p.links).map (mapAttributes g) = r.properties p'.links := by
  have hcolor : mapAttributes g (.value "w:color" p.links.color)
      = .value "w:color" p'.links.color := by
    rw [value, mapAttributes_empty, h.color, value]
  have hkept : ∀ {tag : String} (written : Text), tag ∉ placedTags →
      mapAttributes g (.value tag written) = .value tag written := fun _ htag =>
    h.kept_empty htag _
  -- each mark is written or left out, by the run and by the mode, which the policies share
  unfold Run.properties
  simp only [List.map_append, apply_ite (List.map (mapAttributes g)), List.map_singleton,
    List.map_nil]
  rw [hcolor, hkept _ (by decide), hkept _ (by decide), h.kept_empty (by decide),
    h.kept_empty (by decide), h.kept_empty (by decide), h.mode]

/-- The properties of a run are left out under both policies or under neither. -/
theorem run (r : Run) : mapAttributes g (r.markup p.links) = r.markup p'.links := by
  unfold Run.markup
  rw [h.kept_element (by decide), List.map_append, List.map_singleton, h.runText,
    ← h.properties r]
  dsimp only
  -- whether there are properties does not depend on what they say
  rw [List.isEmpty_map]
  split
  · rfl
  · rw [List.map_singleton, h.kept_element (by decide)]

theorem map_run (runs : List Run) :
    (runs.map (Run.markup p.links)).map (mapAttributes g) = runs.map (Run.markup p'.links) := by
  rw [List.map_map]
  exact List.map_congr_left fun r _ => h.run r

/-- A group of runs is a hyperlink under both policies or under neither. -/
theorem group {group : List Run} (hlinks : ∀ target ∈ Run.groupTarget? group, target ∈ links) :
    (Run.groupMarkup p.links (Run.groupLink group) group).map (mapAttributes g)
      = Run.groupMarkup p'.links (Run.groupLink group) group := by
  cases htarget : Run.groupTarget? group with
  | none => rw [Run.groupMarkup_of_none htarget, Run.groupMarkup_of_none htarget, h.map_run]
  | some target =>
    -- the target is one of the links, so both tables name it or neither does
    have hlink := h.link target (hlinks target htarget)
    cases hmode : p.links.mode with
    | coloredText =>
      rw [Run.groupMarkup_of_coloredText hmode,
        Run.groupMarkup_of_coloredText (h.mode.trans hmode), h.map_run]
    | inlineUrl =>
      rw [Run.groupMarkup_of_inlineUrl hmode htarget,
        Run.groupMarkup_of_inlineUrl (h.mode.trans hmode) htarget, List.map_append, h.map_run,
        List.map_singleton, h.run]
    | hyperlink =>
      have hmode' : p'.links.mode = .hyperlink := h.mode.trans hmode
      cases hname : p.links.table.name? target with
      | none =>
        have hname' : p'.links.table.name? target = none := by
          rw [hname] at hlink
          exact Option.map_eq_none_iff.mp hlink.symm
        rw [Run.groupMarkup_of_name_none hmode htarget hname,
          Run.groupMarkup_of_name_none hmode' htarget hname', h.map_run]
      | some name =>
        rw [hname] at hlink
        obtain ⟨name', hname', hattributes⟩ := Option.map_eq_some_iff.mp hlink.symm
        rw [Run.groupMarkup_of_name hmode htarget hname,
          Run.groupMarkup_of_name hmode' htarget hname', List.map_singleton,
          mapAttributes_element, h.map_run]
        exact congrArg (fun attributes => [Markup.element _ attributes _]) hattributes.symm

/-- Runs are grouped by their targets, which are not changed. -/
theorem runs {runs : List Run} (hlinks : Run.targets runs ⊆ links) :
    (Run.allMarkup p.links runs).map (mapAttributes g) = Run.allMarkup p'.links runs := by
  rw [Run.allMarkup_eq, Run.allMarkup_eq, List.map_flatMap]
  apply List.flatMap_congr
  intro group hgroup
  exact h.group fun target htarget => hlinks (Run.mem_targets_of_mem_groups hgroup htarget)

/-! ## Blocks

Blocks other than images use none of the tags that depend on the place. Their lemmas move the change of
attributes inwards, down to the runs. -/

/-- A paragraph has properties under both policies or under neither. -/
theorem paragraph (properties content : List Markup) :
    mapAttributes g (.paragraph properties content)
      = .paragraph (properties.map (mapAttributes g)) (content.map (mapAttributes g)) := by
  unfold Markup.paragraph
  rw [h.kept_element (by decide), List.map_append, List.isEmpty_map]
  split
  · rfl
  · rw [List.map_singleton, h.kept_element (by decide)]

theorem styleReference (id : Text) :
    mapAttributes g (.styleReference id) = .styleReference id :=
  h.kept_empty (by decide) _

theorem heading (level : Int) (text : Text) :
    mapAttributes g (.heading level text) = .heading level text := by
  unfold Markup.heading
  rw [h.paragraph, List.map_singleton, h.styleReference, List.map_singleton,
    h.kept_element (by decide), List.map_singleton, h.runText]

theorem codeBlock (code : Text) : mapAttributes g (.codeBlock code) = .codeBlock code := by
  unfold Markup.codeBlock value
  rw [h.paragraph, List.map_singleton, h.styleReference, List.map_singleton,
    h.kept_element (by decide), List.map_cons, h.kept_element (by decide), List.map_singleton,
    h.kept_empty (by decide), List.map_singleton, h.runText]

theorem horizontalRule : mapAttributes g .horizontalRule = .horizontalRule := by
  unfold Markup.horizontalRule
  rw [h.paragraph, List.map_singleton, h.kept_element (by decide), List.map_singleton,
    h.kept_empty (by decide), List.map_nil]

theorem itemProperties (style : Text) (list level : Int) :
    (Markup.itemProperties style list level).map (mapAttributes g)
      = Markup.itemProperties style list level := by
  unfold Markup.itemProperties value
  rw [List.map_cons, h.styleReference, List.map_singleton, h.kept_element (by decide),
    List.map_cons, h.kept_empty (by decide), List.map_singleton, h.kept_empty (by decide)]

/-- Items refer to their list by a number that is the same for every list. -/
theorem items (style : Text) (list : Int) {items : List ListItem}
    (hlinks : (items.flatMap fun item => Run.targets item.runs) ⊆ links) :
    (ListItem.allMarkup p.links style list items).map (mapAttributes g)
      = ListItem.allMarkup p'.links style list items := by
  unfold ListItem.allMarkup
  rw [List.map_map]
  apply List.map_congr_left
  intro item hitem
  have htargets : Run.targets item.runs ⊆ links := fun target htarget =>
    hlinks (List.mem_flatMap.mpr ⟨item, hitem, htarget⟩)
  rw [Function.comp_apply, h.paragraph, h.itemProperties, h.runs htargets]

/-- The number of an image moves on, and with it its name; its words stay. -/
theorem image (number : Nat) (altText : Text) :
    mapAttributes g (.image number altText) = .image (number + shift) altText := by
  have hpicture := h.picture number altText
  unfold pictureAttributes at hpicture
  unfold Markup.image
  simp only [mapAttributes_element, mapAttributes_empty, List.map_cons, List.map_nil, hpicture]
  -- all other tags of the graphic are left alone
  simp (disch := decide) only [h.kept]

/-! ## Tables

The width of the columns comes from the width of the text, which the policies share, and from the first
row. Changing the attributes in a cell changes neither the number of cells nor whether a cell is empty. -/

theorem tableCell (columnWidth : Int) (content : List Markup) :
    mapAttributes g (.tableCell columnWidth content)
      = .tableCell columnWidth (content.map (mapAttributes g)) := by
  unfold Markup.tableCell width
  rw [h.kept_element (by decide), List.map_cons, h.kept_element (by decide), List.map_singleton,
    h.kept_empty (by decide), List.isEmpty_map]
  -- the paragraph that fills an empty cell has no attributes
  split
  · rw [List.map_singleton, h.kept_empty (by decide)]
  · rfl

theorem tableRow (count : Nat) (columnWidth : Int) (row : RowMarkup) :
    mapAttributes g (.tableRow count columnWidth row)
      = .tableRow count columnWidth (row.mapAttributes g) := by
  have hcell : mapAttributes g ∘ Markup.tableCell columnWidth
      = Markup.tableCell columnWidth ∘ List.map (mapAttributes g) :=
    funext fun content => h.tableCell columnWidth content
  have hheader : (if row.header then [Markup.element "w:trPr" [] [.empty "w:tblHeader" []]]
      else []).map (mapAttributes g)
        = if row.header then [.element "w:trPr" [] [.empty "w:tblHeader" []]] else [] := by
    split
    · rw [List.map_singleton, h.kept_element (by decide), List.map_singleton,
        h.kept_empty (by decide)]
    · rfl
  unfold Markup.tableRow RowMarkup.mapAttributes
  dsimp only
  -- the row has as many cells as before, so it lacks as many
  rw [h.kept_element (by decide), List.map_append, hheader, List.map_map, hcell, ← List.map_map,
    List.map_append, List.map_replicate, List.length_map]
  rfl

theorem table (rows : List RowMarkup) :
    (Markup.table p.contentWidth rows).map (mapAttributes g)
      = Markup.table p'.contentWidth (rows.map (RowMarkup.mapAttributes g)) := by
  rw [h.contentWidth]
  cases rows with
  | nil => rfl
  | cons first rest =>
    -- the first row decides how many columns there are
    have hcount : (first.mapAttributes g).cells.length = first.cells.length := List.length_map _
    have hrow : ∀ (count : Nat) (columnWidth : Int),
        mapAttributes g ∘ Markup.tableRow count columnWidth
          = Markup.tableRow count columnWidth ∘ RowMarkup.mapAttributes g :=
      fun count columnWidth => funext fun row => h.tableRow count columnWidth row
    show _ = Markup.table p.contentWidth (first.mapAttributes g :: rest.map _)
    unfold Markup.table value width
    dsimp only
    rw [hcount, List.map_singleton, h.kept_element (by decide), List.map_append, List.map_cons,
      h.kept_element (by decide), List.map_cons, h.kept_empty (by decide), List.map_singleton,
      h.kept_empty (by decide), List.map_singleton, h.kept_element (by decide),
      List.map_replicate, h.kept_empty (by decide), List.map_map, hrow, ← List.map_map]
    rfl

end Blocks

/-! ## Elements

One lemma for each function of the walk. Each hands on the number of the next picture, and the
shift stays the same all the way. -/

mutual

theorem element (h : Relocates g p p' shift links) (cell : Option Text) (next : Nat) (e : Element)
    (hlinks : e.links ⊆ links) :
    (e.markup p cell next).map (mapAttributes g) = e.markup p' cell (next + shift) := by
  cases e with
  | heading level text => exact congrArg (fun m => [m]) (h.heading level text)
  | paragraph runs =>
    have hstyle : mapAttributes g ∘ Markup.styleReference = Markup.styleReference :=
      funext fun style => h.styleReference style
    rw [Element.markup, List.map_singleton, h.paragraph, List.map_map, h.runs hlinks]
    exact congrArg (fun f => [Markup.paragraph (cell.toList.map f) _]) hstyle
  | quote runs =>
    rw [Element.markup, List.map_singleton, h.paragraph, List.map_singleton, h.styleReference,
      h.runs hlinks, Element.markup]
  -- bulleted and numbered lists have a number of their own, 1 and 2
  | bulletList items => exact h.items _ _ hlinks
  | numberedList items => exact h.items _ _ hlinks
  | codeBlock language code => exact congrArg (fun m => [m]) (h.codeBlock code)
  | table rs => rw [Element.markup, h.table, rows h next rs hlinks, Element.markup]
  | horizontalRule => exact congrArg (fun m => [m]) h.horizontalRule
  | image altText source => exact congrArg (fun m => [m]) (h.image next altText)
  | loneRun _ => rfl
  | loneItem _ => rfl
  | loneRow _ => rfl
  | loneCell _ => rfl

theorem rows (h : Relocates g p p' shift links) (next : Nat) (rs : List Row)
    (hlinks : Row.allLinks rs ⊆ links) :
    (Row.allMarkup p next rs).map (RowMarkup.mapAttributes g)
      = Row.allMarkup p' (next + shift) rs := by
  cases rs with
  | nil => rfl
  | cons row rs =>
    obtain ⟨cs, header⟩ := row
    rw [Row.allLinks, List.append_subset] at hlinks
    -- the pictures before a row are counted under both policies alike, so the shift passes through
    rw [Row.allMarkup, List.map_cons, RowMarkup.mapAttributes, cells h _ next cs hlinks.1,
      rows h _ rs hlinks.2, Row.allMarkup, Nat.add_right_comm]

theorem cells (h : Relocates g p p' shift links) (style : Text) (next : Nat) (cs : List Cell)
    (hlinks : Cell.allLinks cs ⊆ links) :
    (Cell.allMarkup p style next cs).map (List.map (mapAttributes g))
      = Cell.allMarkup p' style (next + shift) cs := by
  cases cs with
  | nil => rfl
  | cons c cs =>
    obtain ⟨content⟩ := c
    rw [Cell.allLinks, List.append_subset] at hlinks
    rw [Cell.allMarkup, List.map_cons, elements h _ next content hlinks.1,
      cells h style _ cs hlinks.2, Cell.allMarkup, Nat.add_right_comm]

/-- Elements in another place are written with the same markup but for these attributes. -/
theorem elements (h : Relocates g p p' shift links) (cell : Option Text) (next : Nat)
    (es : List Element) (hlinks : Element.allLinks es ⊆ links) :
    (Element.allMarkup p cell next es).map (mapAttributes g)
      = Element.allMarkup p' cell (next + shift) es := by
  cases es with
  | nil => rfl
  | cons e es =>
    rw [Element.allLinks, List.append_subset] at hlinks
    rw [Element.allMarkup, List.map_append, element h cell next e hlinks.1,
      elements h cell _ es hlinks.2, Element.allMarkup, Nat.add_right_comm]

end

/-- Without a shift the whole part is written with other attributes; the frame has none of these tags.
-/
theorem document (h : Relocates g p p' 0 links) (size : PageSize) (margins : PageMargins)
    (es : List Element) (hlinks : Element.allLinks es ⊆ links) :
    mapAttributes g (documentMarkup p size margins es) = documentMarkup p' size margins es := by
  unfold documentMarkup sectionMarkup
  rw [h.kept_element (by decide), List.map_singleton, h.kept_element (by decide), List.map_append,
    h.elements none 1 es hlinks, List.map_singleton, h.kept_element (by decide), List.map_cons,
    h.kept_empty (by decide), List.map_singleton, h.kept_empty (by decide)]

end BodyPolicy.Relocates

end Wordsmith
