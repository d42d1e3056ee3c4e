import Wordsmith.Package.Part
import Wordsmith.Proofs.Markup.Everywhere
import Wordsmith.Proofs.Package.StyleLexicon
import Wordsmith.Proofs.Package.StyleReader

/-!
# The styles that are defined

The styles part defines fifteen styles, whatever the style of the document is (`Style.defined`). No
two have the same identifier, so each is found under its own; no definition holds another one, and
all styles that a definition refers to are the style of running paragraphs.

* `Markup.Defines`, `Markup.AreDefined` — that markup defines the styles of a list, in its order.
* `Markup.style?_of_mem` — identifiers that are not used twice lead to their definitions.
* `Style.areDefined_definitions` — the definitions of the part, and `Style.exists_style` that each of
  them is found.
-/

namespace Wordsmith

open Xml Markup

namespace Markup

/-! ## Definitions

A definition is an element `w:style` with an identifier and a type, and inside of it no tag is another
definition (`InStyle`). The part is a sequence of definitions behind the defaults of the document, so
it is enough to say which they are and in which order (`AreDefined`). -/

/-- A tag inside the definition of a style defines no other style, and what it refers to is the
style of running paragraphs. -/
def InStyle (tag : String) (attributes : List Attribute) : Prop :=
  tag ≠ "w:style" ∧
    (tag ∈ ["w:basedOn", "w:next"] → attributes = [⟨"w:val", Text.ofString "Normal"⟩])

/-- The markup is the definition of a style with this identifier and of this type. -/
def Defines (id : Text) (type : String) (m : Markup) : Prop :=
  ∃ attributes ms, m = .element "w:style" attributes ms ∧
    written? "w:styleId" attributes = some id ∧
    written? "w:type" attributes = some (Text.ofString type) ∧ AllEverywhere InStyle ms

/-- The markup defines these styles, given by their identifiers and types, in this order. -/
def AreDefined (entries : List (Text × String)) (ms : List Markup) : Prop :=
  List.Forall₂ (fun e m => m.Defines e.1 e.2) entries ms

/-- Definitions may be written one after the other. -/
theorem AreDefined.append {entries entries' : List (Text × String)} {ms ms' : List Markup}
    (h : AreDefined entries ms) (h' : AreDefined entries' ms') :
    AreDefined (entries ++ entries') (ms ++ ms') :=
  List.rel_append h h'

theorem Defines.areDefined {id : Text} {type : String} {m : Markup} (h : m.Defines id type) :
    AreDefined [(id, type)] [m] :=
  .cons h .nil

/-- The identifier and the type are written verbatim and read as they are. -/
theorem defines_styleDefinition {type : String} {id : Text} (hid : id.unescape = id)
    (htype : (Text.ofString type).unescape = Text.ofString type) {ms : List Markup}
    (h : AllEverywhere InStyle ms) : (styleDefinition type id ms).Defines id type :=
  ⟨_, _, rfl, by simp [Attribute.fixed, Attribute.verbatim, hid],
    by simp [Attribute.fixed, htype], h⟩

/-- A paragraph style is a definition that begins with its name and refers to `Normal`,
the one reference that is allowed. -/
theorem defines_paragraphStyle {id name : Text} (hid : id.unescape = id) {ms : List Markup}
    (h : AllEverywhere InStyle ms) : (paragraphStyle id name ms).Defines id "paragraph" := by
  refine defines_styleDefinition hid (by decide) (allEverywhere_append.mpr ⟨?_, h⟩)
  simp [InStyle]

/-- Only an element `w:style` has the identifier of a style. -/
theorem styleId?_node (attributes : List Attribute) (ms : List Markup) :
    (node "w:style" attributes ms).styleId? = written? "w:styleId" attributes := by
  unfold styleId?
  rw [hasTag_node, attribute?_node]
  rfl

/-- What defines a style stands for one element, with the identifier and the type of the style. -/
theorem Defines.exists_view {id : Text} {type : String} {m : Markup} (h : m.Defines id type) :
    ∃ x, m.view = [x] ∧ x.styleId? = some id ∧
      x.attribute? "w:type" = some (Text.ofString type) := by
  obtain ⟨attributes, ms, rfl, hid, htype, -⟩ := h
  exact ⟨_, view_element _ _ _, (styleId?_node _ _).trans hid, htype⟩

theorem attribute?_of_styleId? {x : Xml} {id : Text} (h : x.styleId? = some id) :
    x.attribute? "w:styleId" = some id := by
  unfold styleId? at h
  split at h
  · exact h
  · cases h

/-- Whatever gives a style its identifier gives these styles their identifiers. -/
theorem AreDefined.filterMap_viewAll {entries : List (Text × String)} {ms : List Markup}
    (h : AreDefined entries ms) {f : Xml → Option Text}
    (hf : ∀ x id, x.styleId? = some id → f x = some id) :
    (viewAll ms).filterMap f = entries.map (·.1) := by
  induction h with
  | nil => rfl
  | cons hid _ ih =>
    obtain ⟨x, hview, hx, -⟩ := hid.exists_view
    rw [viewAll, hview, List.singleton_append, List.filterMap_cons, hf x _ hx, ih, List.map_cons]

/-- Each of the styles has its definition among the markup. -/
theorem AreDefined.exists_mem {entries : List (Text × String)} {ms : List Markup}
    (h : AreDefined entries ms) {e : Text × String} (he : e ∈ entries) :
    ∃ m ∈ ms, m.Defines e.1 e.2 := by
  induction h with
  | nil => exact absurd he List.not_mem_nil
  | @cons e' m entries ms hid _ ih =>
    rcases List.mem_cons.mp he with rfl | he
    · exact ⟨m, List.mem_cons_self, hid⟩
    · obtain ⟨n, hn, hdefines⟩ := ih he
      exact ⟨n, List.mem_cons_of_mem m hn, hdefines⟩

/-- Definitions hold no other definitions, so a walk finds just these. -/
theorem AreDefined.find_style {entries : List (Text × String)} {ms : List Markup}
    (h : AreDefined entries ms) : find "w:style" ms = viewAll ms := by
  induction h with
  | nil => rfl
  | cons hid _ ih =>
    -- the walk takes the definition itself and finds nothing inside of it
    obtain ⟨attributes, children, rfl, -, -, hinside⟩ := hid
    have hnone : find "w:style" children = [] := hinside.find_eq_nil fun _ has => has.1 rfl
    rw [find_cons, find_element_self, hnone, ih]
    rfl

/-- Whatever a definition refers to is the style of running paragraphs. -/
theorem AreDefined.reference {entries : List (Text × String)} {ms : List Markup}
    (h : AreDefined entries ms) {tag : String} (htag : tag ∈ ["w:basedOn", "w:next"]) {x : Xml}
    (hx : x ∈ find tag ms) : x.attribute? "w:val" = some (Text.ofString "Normal") := by
  have hstyle : "w:style" ≠ tag := by
    rintro rfl
    exact absurd htag (by decide)
  induction h with
  | nil => exact absurd hx List.not_mem_nil
  | cons hid _ ih =>
    rw [find_cons] at hx
    -- the reference stands in the first definition or in one of the others
    rcases List.mem_append.mp hx with hx | hx
    · obtain ⟨attributes, children, rfl, -, -, hinside⟩ := hid
      rw [find_element_of_ne hstyle] at hx
      obtain ⟨as, ms, has, rfl⟩ := hinside.of_mem_find hx
      rw [attribute?_node, has.2 htag]
      decide
    · exact ih hx

/-- An element that a piece of markup stands for is among those of the sequence. -/
theorem mem_viewAll {m : Markup} {ms : List Markup} (hm : m ∈ ms) {x : Xml} (hx : m.view = [x]) :
    x ∈ viewAll ms := by
  obtain ⟨before, after, rfl⟩ := List.append_of_mem hm
  rw [viewAll_append, viewAll, hx]
  simp

/-- Where no identifier is used twice, a style is found by its identifier. -/
theorem style?_of_mem {root x : Xml} {id : Text}
    (hnodup : (root.content.filterMap styleId?).Nodup) (hx : x ∈ root.content)
    (hid : x.styleId? = some id) : root.style? id = some x := by
  unfold style?
  generalize root.content = xs at hnodup hx
  induction xs with
  | nil => exact absurd hx List.not_mem_nil
  | cons y ys ih =>
    rcases List.mem_cons.mp hx with rfl | hmem
    · exact List.find?_cons_of_pos (decide_eq_true hid)
    · -- an earlier style of this identifier would be a second one
      have hne : y.styleId? ≠ some id := by
        intro hy
        rw [List.filterMap_cons, hy, List.nodup_cons] at hnodup
        exact hnodup.1 (List.mem_filterMap.mpr ⟨x, hmem, hid⟩)
      rw [List.find?_cons_of_neg (by simpa using hne)]
      refine ih (hnodup.sublist ?_) hmem
      exact (List.sublist_cons_self y ys).filterMap _

end Markup

/-! ## Properties

Nothing among the properties of a style defines a style or refers to one: the tags are all others. For
the sides of a border that is checked for each edge. -/

section Properties

theorem allEverywhere_unlessBare {P : String → List Attribute → Prop} {tag : String}
    {attributes : List Attribute} (h : P tag attributes) :
    AllEverywhere P (unlessBare tag attributes) := by
  unfold unlessBare
  split <;> simp [h]

theorem Spacing.inStyle_markup (s : Spacing) (lineSpacing : LineSpacing) :
    AllEverywhere InStyle (s.markup lineSpacing) :=
  allEverywhere_unlessBare (by simp [InStyle])

theorem Indentation.inStyle_markup (i : Indentation) : AllEverywhere InStyle i.markup :=
  allEverywhere_unlessBare (by simp [InStyle])

/-- The six edges are gone through one by one: none of them is the name of a style or of a reference.
-/
theorem BorderSide.inStyle_markup {edge : String} (hedge : edge ∈ edges) (s : BorderSide) :
    Everywhere InStyle (s.markup edge) := by
  have hplain : ∀ edge ∈ edges,
      "w:" ++ edge ≠ "w:style" ∧ "w:" ++ edge ∉ ["w:basedOn", "w:next"] := by
    decide
  obtain ⟨hstyle, hother⟩ := hplain edge hedge
  exact .empty ⟨hstyle, fun h => absurd h hother⟩

theorem Border.inStyle_sideMarkup (b : Border) : AllEverywhere InStyle b.sideMarkup := by
  intro m hm
  obtain ⟨⟨edge, side⟩, hside, rfl⟩ := List.mem_map.mp hm
  exact side.inStyle_markup (mem_edges hside)

theorem Border.inStyle_paragraphMarkup (b : Border) : AllEverywhere InStyle b.paragraphMarkup := by
  unfold paragraphMarkup
  split
  · simp
  · simp [b.inStyle_sideMarkup, InStyle]

theorem Border.inStyle_tableMarkup (b : Border) : AllEverywhere InStyle b.tableMarkup := by
  -- the borders between the cells are sides at other edges
  have hinner : AllEverywhere InStyle b.innerMarkup := by
    intro m hm
    obtain ⟨side, -, rfl | rfl⟩ := mem_innerMarkup hm
    · exact side.inStyle_markup (by decide)
    · exact side.inStyle_markup (by decide)
  unfold tableMarkup
  split
  · simp
  · simp [b.inStyle_sideMarkup, hinner, InStyle]

/-- A font writes marks, values and what it is given besides (`extra`), so nothing in it refers to a
style if nothing in that does. -/
theorem Font.inStyle_markup (f : Font) (bold italic : Bool) (kern : Option Int)
    {extra : List Markup} (hextra : AllEverywhere InStyle extra) :
    Everywhere InStyle (f.markup bold italic kern extra) := by
  have hbold : AllEverywhere InStyle (if bold then [.empty "w:b" [], .empty "w:bCs" []] else []) :=
    allEverywhere_if (by simp [InStyle])
  have hitalic : AllEverywhere InStyle
      (if italic then [.empty "w:i" [], .empty "w:iCs" []] else []) :=
    allEverywhere_if (by simp [InStyle])
  have hkern : AllEverywhere InStyle (kern.toList.map fun n => .value "w:kern" (.ofInt n)) := by
    rw [allEverywhere_map]
    simp [InStyle]
  unfold markup
  simp only [everywhere_element, allEverywhere_append, hbold, hitalic, hkern, hextra]
  simp [faceMarkup, colorMarkup, sizeMarkup, InStyle]

end Properties

/-! ## Styles

One lemma for each style that is defined. The identifier and the type are fixed, except for headings,
whose identifier is that of their slot (`HeadingSlot.styleId`). -/

section Styles

/-- The style of running paragraphs is the one the others are based on. It may hold a font and an
alignment of its own, and no reference. -/
theorem ParagraphStyles.defines_markup (s : ParagraphStyles) (lineSpacing : LineSpacing) :
    (s.markup lineSpacing).Defines "Normal" "paragraph" := by
  have halignment : AllEverywhere InStyle
      (if s.normal.alignment = .left then [] else [.value "w:jc" s.normal.alignment.name]) := by
    split <;> simp [InStyle]
  have hfonts : AllEverywhere InStyle (s.normal.font.toList.map fun font => font.markup) := by
    rw [allEverywhere_map]
    exact fun font _ => font.inStyle_markup false false none allEverywhere_nil
  refine ⟨_, _, rfl, by decide, by decide, allEverywhere_append.mpr ⟨?_, hfonts⟩⟩
  simp only [allEverywhere_cons, everywhere_element, allEverywhere_append,
    s.spacing.inStyle_markup lineSpacing, s.normal.indentation.inStyle_markup, halignment]
  simp [InStyle]

theorem HeadingSlot.unescape_styleId (slot : HeadingSlot) :
    slot.styleId.unescape = slot.styleId := by
  cases slot <;> decide

theorem HeadingStyle.defines_markup (s : HeadingStyle) (slot : HeadingSlot) :
    (s.markup slot.level).Defines slot.styleId "paragraph" := by
  have hnext : AllEverywhere InStyle (if s.keepWithNext then [.empty "w:keepNext" []] else []) :=
    allEverywhere_if (by simp [InStyle])
  have hlines : AllEverywhere InStyle (if s.keepLines then [.empty "w:keepLines" []] else []) :=
    allEverywhere_if (by simp [InStyle])
  have hfont := s.font.inStyle_markup true false (some 32) allEverywhere_nil
  refine defines_styleDefinition slot.unescape_styleId (by decide) ?_
  simp only [allEverywhere_cons, everywhere_element, allEverywhere_append,
    s.spacing.inStyle_markup, hnext, hlines, hfont]
  simp [InStyle]

/-- The six heading styles are written in the order of their slots, each under the identifier of its
slot. -/
theorem HeadingStyles.areDefined_markup (s : HeadingStyles) :
    AreDefined (HeadingSlot.all.map fun slot => (slot.styleId, "paragraph")) s.markup :=
  .cons (s.h1.defines_markup .h1) (.cons (s.h2.defines_markup .h2)
    (.cons (s.h3.defines_markup .h3) (.cons (s.h4.defines_markup .h4)
    (.cons (s.h5.defines_markup .h5) (.cons (s.h6.defines_markup .h6) .nil)))))

theorem CodeBlockStyle.defines_markup (s : CodeBlockStyle) :
    s.markup.Defines "CodeBlock" "paragraph" := by
  have hfont := s.font.inStyle_markup false false none allEverywhere_nil
  refine defines_paragraphStyle (by decide) ?_
  simp only [allEverywhere_cons, everywhere_element, allEverywhere_append,
    s.border.inStyle_paragraphMarkup, s.spacing.inStyle_markup, s.indentation.inStyle_markup, hfont]
  simp [InStyle, shading]

/-- Code within a line has the only character style. Its background is fixed and not that of code
blocks. -/
theorem CodeBlockStyle.defines_inlineMarkup (s : CodeBlockStyle) :
    s.inlineMarkup.Defines "Code" "character" := by
  have hshading : AllEverywhere InStyle [shading "F9F2F4"] := by
    simp [InStyle, shading]
  have hfont := s.font.inStyle_markup false false none hshading
  refine defines_styleDefinition (by decide) (by decide) ?_
  simp [InStyle, hfont]

theorem QuoteStyle.defines_markup (s : QuoteStyle) : s.markup.Defines "Quote" "paragraph" := by
  have hfont := s.font.inStyle_markup false true none allEverywhere_nil
  refine defines_paragraphStyle (by decide) ?_
  simp only [allEverywhere_cons, everywhere_element, allEverywhere_append,
    s.border.inStyle_paragraphMarkup, s.spacing.inStyle_markup, s.indentation.inStyle_markup, hfont]
  simp [InStyle]

theorem ListStyle.areDefined_markup (s : ListStyle) :
    AreDefined [("ListBullet", "paragraph"), ("ListNumber", "paragraph")] s.markup := by
  have hindentation := Indentation.inStyle_markup { left := s.indentation }
  -- both kinds of items have the same properties and a font of their own
  have hitem : ∀ font : Font, AllEverywhere InStyle
      [.element "w:pPr" [] ({ left := s.indentation : Indentation }).markup, font.markup] := by
    intro font
    have hfont := font.inStyle_markup false false none allEverywhere_nil
    simp [InStyle, hindentation, hfont]
  exact .cons (defines_paragraphStyle (by decide) (hitem _))
    (.cons (defines_paragraphStyle (by decide) (hitem _)) .nil)

theorem TableStyle.areDefined_cellMarkup (s : TableStyle) :
    AreDefined [("TableHeader", "paragraph"), ("TableBody", "paragraph")] s.cellMarkup := by
  have hcell : ∀ (font : Font) (bold : Bool), AllEverywhere InStyle [font.markup bold] := by
    intro font bold
    exact (font.inStyle_markup bold false none allEverywhere_nil).singleton
  exact .cons (defines_paragraphStyle (by decide) (hcell _ _))
    (.cons (defines_paragraphStyle (by decide) (hcell _ _)) .nil)

theorem TableStyle.defines_markup (s : TableStyle) : s.markup.Defines "TableGrid" "table" := by
  refine ⟨_, _, s.markup_eq, by decide, by decide, ?_⟩
  simp only [allEverywhere_cons, everywhere_element, allEverywhere_append,
    s.border.inStyle_tableMarkup]
  simp [InStyle, width]

end Styles

/-! ## The part

The six styles of headings stand between running paragraphs and code. `Style.root` is what the part
stands for, and walking through it finds the definitions and the references in them and nothing else
(`Style.tagged_root`). -/

namespace Style

variable (s : Style)

/-- The definitions of the styles, after the defaults of the document. -/
def definitions : List Markup :=
  [s.paragraphs.markup s.lineSpacing] ++ s.headings.markup ++ [s.codeBlocks.markup, s.quotes.markup]
    ++ s.lists.markup ++ s.tables.cellMarkup ++ [s.tables.markup, s.codeBlocks.inlineMarkup]

/-- The root of the styles part. -/
def root : Xml :=
  node "w:styles" [.fixed "xmlns:w" Vocabulary.main] (s.defaultFont.defaultsMarkup :: s.definitions)

/-- The styles that are defined, in the order of their definitions: their identifiers and their
types. -/
def defined : List (Text × String) :=
  [("Normal", "paragraph"), ("Heading1", "paragraph"), ("Heading2", "paragraph"),
    ("Heading3", "paragraph"), ("Heading4", "paragraph"), ("Heading5", "paragraph"),
    ("Heading6", "paragraph"), ("CodeBlock", "paragraph"), ("Quote", "paragraph"),
    ("ListBullet", "paragraph"), ("ListNumber", "paragraph"), ("TableHeader", "paragraph"),
    ("TableBody", "paragraph"), ("TableGrid", "table"), ("Code", "character")]

/-- No two styles share an identifier. -/
theorem nodup_defined : (defined.map (·.1)).Nodup := by decide

/-- Identifiers are written as they are, and read as they are. -/
theorem unescape_of_mem_defined : ∀ e ∈ defined, e.1.unescape = e.1 := by decide

/-- The part defines the styles of the list, whatever the style of the document is. -/
theorem areDefined_definitions : AreDefined defined s.definitions :=
  (((((s.paragraphs.defines_markup s.lineSpacing).areDefined.append
    s.headings.areDefined_markup).append
    (s.codeBlocks.defines_markup.areDefined.append s.quotes.defines_markup.areDefined)).append
    s.lists.areDefined_markup).append s.tables.areDefined_cellMarkup).append
    (s.tables.defines_markup.areDefined.append s.codeBlocks.defines_inlineMarkup.areDefined)

/-- The identifiers among the children of the root. The defaults of the document stand among them and
have none. -/
theorem filterMap_styleId?_root : s.root.content.filterMap styleId? = defined.map (·.1) := by
  -- the defaults of the document define no style
  have hdefaults : s.defaultFont.defaultsMarkup.view.filterMap styleId? = [] := by
    unfold Font.defaultsMarkup
    simp [styleId?]
  have hcontent : s.root.content = s.defaultFont.defaultsMarkup.view ++ viewAll s.definitions := by
    unfold root
    rw [node, Xml.content, viewAll]
  rw [hcontent, List.filterMap_append, hdefaults, List.nil_append]
  exact s.areDefined_definitions.filterMap_viewAll fun _ _ h => h

/-- A definition is found under its identifier. -/
theorem style?_root {id : Text} {m : Markup} (hm : m ∈ s.definitions) {x : Xml}
    (hx : m.view = [x]) (hid : x.styleId? = some id) : s.root.style? id = some x :=
  style?_of_mem (s.filterMap_styleId?_root ▸ nodup_defined)
    (List.mem_append_right _ (mem_viewAll hm hx)) hid

/-- The defaults neither define a style nor refer to one. -/
theorem find_defaults {tag : String} (htag : tag ∈ ["w:style", "w:basedOn", "w:next"]) :
    find tag [s.defaultFont.defaultsMarkup] = [] := by
  have hother : Everywhere (fun t _ => t ∉ ["w:style", "w:basedOn", "w:next"])
      s.defaultFont.defaultsMarkup := by
    unfold Font.defaultsMarkup
    simp [Font.faceMarkup, Font.colorMarkup, Font.sizeMarkup]
  exact hother.singleton.find_eq_nil fun _ has => has htag

/-- Definitions and references are found among the definitions only. -/
theorem tagged_root {tag : String} (htag : tag ∈ ["w:style", "w:basedOn", "w:next"]) :
    s.root.tagged tag = find tag s.definitions := by
  have hne : "w:styles" ≠ tag := by
    rintro rfl
    exact absurd htag (by decide)
  unfold root
  rw [tagged_node, find_element_of_ne hne, find_cons, s.find_defaults htag, List.nil_append]

/-- The identifiers in the part, in document order, are those of the styles that are defined. -/
theorem styleIds_root :
    (s.root.tagged "w:style").filterMap (·.attribute? "w:styleId") = defined.map (·.1) := by
  rw [s.tagged_root (by decide), s.areDefined_definitions.find_style]
  exact s.areDefined_definitions.filterMap_viewAll fun _ _ => attribute?_of_styleId?

/-- Each of the styles is found in the part, and has its type. -/
theorem exists_style {id : Text} {type : String} (h : (id, type) ∈ defined) :
    ∃ x ∈ s.root.tagged "w:style", x.attribute? "w:styleId" = some id ∧
      x.attribute? "w:type" = some (Text.ofString type) := by
  obtain ⟨m, hm, hdefines⟩ := s.areDefined_definitions.exists_mem h
  obtain ⟨x, hview, hid, htype⟩ := hdefines.exists_view
  rw [s.tagged_root (by decide), s.areDefined_definitions.find_style]
  exact ⟨x, mem_viewAll hm hview, attribute?_of_styleId? hid, htype⟩

end Style

end Wordsmith
