import Wordsmith.Proofs.Package.Relocation
import Wordsmith.Proofs.Package.Surrogates
import Wordsmith.Proofs.Package.WellFormed

/-!
# The strings of a style

Fonts have names, and fonts, borders, code and links have colours. These are arbitrary strings, and
they end up in values of attributes. So they have no say in the tags of a part and in their nesting,
provided that they can stand in a value (`Style.StringsFit`): a name is escaped but not stripped,
and a colour is written as it is. Otherwise a name can leave a part unreadable
(`Style.isWellFormed_styles_iff`), and a colour can bring markup with it
(`Markup.print_value_smuggled`).

* `Style.withStrings` puts one word in the place of all strings, and everything else stays.
* `Style.bare_markup`, `Style.documentMarkup_withStrings`: the markup of either part is the same but
  for its attributes.
* `Style.sameOutline_withStrings`: so the two styles give well-formed parts with elements of the same
  tags, nested in the same way.
-/

namespace Wordsmith

open Xml Markup

/-! ## Other strings

`withStrings` follows the records of a style down to its fonts, borders and colours. Which fonts and
sides there are does not change, only what they are called and how they are coloured. -/

def Font.withStrings (word : Text) (f : Font) : Font := { f with name := word, color := word }

def BorderSide.withStrings (word : Text) (s : BorderSide) : BorderSide := { s with color := word }

def Border.withStrings (word : Text) (b : Border) : Border where
  top := b.top.map (·.withStrings word)
  right := b.right.map (·.withStrings word)
  bottom := b.bottom.map (·.withStrings word)
  left := b.left.map (·.withStrings word)

def HeadingStyle.withStrings (word : Text) (s : HeadingStyle) : HeadingStyle :=
  { s with font := s.font.withStrings word }

def HeadingStyles.withStrings (word : Text) (s : HeadingStyles) : HeadingStyles where
  h1 := s.h1.withStrings word
  h2 := s.h2.withStrings word
  h3 := s.h3.withStrings word
  h4 := s.h4.withStrings word
  h5 := s.h5.withStrings word
  h6 := s.h6.withStrings word

def ParagraphStyles.withStrings (word : Text) (s : ParagraphStyles) : ParagraphStyles :=
  { s with normal := { s.normal with font := s.normal.font.map (·.withStrings word) } }

def CodeBlockStyle.withStrings (word : Text) (s : CodeBlockStyle) : CodeBlockStyle :=
  { s with font := s.font.withStrings word, background := word,
           border := s.border.withStrings word }

def QuoteStyle.withStrings (word : Text) (s : QuoteStyle) : QuoteStyle :=
  { s with font := s.font.withStrings word, border := s.border.withStrings word }

def TableStyle.withStrings (word : Text) (s : TableStyle) : TableStyle :=
  { s with border := s.border.withStrings word, headerFont := s.headerFont.withStrings word,
           bodyFont := s.bodyFont.withStrings word }

def ListStyle.withStrings (word : Text) (s : ListStyle) : ListStyle :=
  { s with bulletFont := s.bulletFont.withStrings word,
           numberedFont := s.numberedFont.withStrings word }

/-- The style with all names of fonts and all colours replaced by one word. -/
def Style.withStrings (word : Text) (s : Style) : Style :=
  { s with defaultFont := s.defaultFont.withStrings word
           headings := s.headings.withStrings word
           paragraphs := s.paragraphs.withStrings word
           codeBlocks := s.codeBlocks.withStrings word
           quotes := s.quotes.withStrings word
           tables := s.tables.withStrings word
           lists := s.lists.withStrings word
           linkColor := word }

/-! ## The styles part

Without its attributes, each style is the same with other strings. The lemmas are in the order of the
records: fonts and borders, then the styles that have them, then the part. `Markup.bare` drops the
attributes, and the outline of what markup stands for does not depend on them. -/

namespace Markup

/-- A piece of markup without attributes. -/
def bare (m : Markup) : Markup := m.mapAttributes fun _ _ => []

@[simp] theorem bare_empty (tag : String) (attributes : List Attribute) :
    (Markup.empty tag attributes).bare = .empty tag [] :=
  mapAttributes_empty tag attributes

@[simp] theorem bare_element (tag : String) (attributes : List Attribute) (ms : List Markup) :
    (Markup.element tag attributes ms).bare = .element tag [] (ms.map bare) :=
  mapAttributes_element tag attributes ms

@[simp] theorem bare_value (tag : String) (t : Text) : (Markup.value tag t).bare = .empty tag [] :=
  bare_empty tag _

@[simp] theorem bare_shading (fill : Text) : (Markup.shading fill).bare = .empty "w:shd" [] :=
  bare_empty _ _

theorem bare_styleDefinition (type : String) (id : Text) (content : List Markup) :
    (styleDefinition type id content).bare = .element "w:style" [] (content.map bare) :=
  bare_element _ _ _

/-- The name of a style and the style it is based on are attributes and are dropped. -/
theorem bare_paragraphStyle (id name : Text) (content : List Markup) :
    (paragraphStyle id name content).bare
      = .element "w:style" []
          ([.empty "w:name" [], .empty "w:basedOn" []] ++ content.map bare) := by
  unfold paragraphStyle
  rw [bare_styleDefinition, List.map_append]
  simp

/-- Markup that is the same without attributes has the same outline. -/
theorem outlineAll_view_of_bare {m n : Markup} (h : m.bare = n.bare) :
    outlineAll m.view = outlineAll n.view := by
  rw [← outlineAll_view_mapAttributes m, ← outlineAll_view_mapAttributes n]
  exact congrArg (fun m => outlineAll m.view) h

/-- Markup with a single root is compared by its root. -/
theorem outline_eq {m n : Markup} {x y : Xml} (hm : m.view = [x]) (hn : n.view = [y])
    (h : outlineAll m.view = outlineAll n.view) : x.outline = y.outline := by
  rw [hm, hn] at h
  simpa [outlineAll] using h

end Markup

variable (word : Text)

@[simp] theorem Font.bare_markup (f : Font) (bold italic : Bool) (kern : Option Int)
    (extra : List Markup) :
    ((f.withStrings word).markup bold italic kern extra).bare
      = (f.markup bold italic kern extra).bare := by
  simp [markup, faceMarkup, colorMarkup, sizeMarkup, withStrings]

theorem Font.bare_defaultsMarkup (f : Font) :
    (f.withStrings word).defaultsMarkup.bare = f.defaultsMarkup.bare := by
  simp [defaultsMarkup, faceMarkup, colorMarkup, sizeMarkup]

@[simp] theorem BorderSide.bare_markup (edge : String) (s : BorderSide) :
    ((s.withStrings word).markup edge).bare = (s.markup edge).bare := by
  simp [markup]

@[simp] theorem Border.isEmpty_withStrings (b : Border) :
    (b.withStrings word).isEmpty = b.isEmpty := by
  simp [isEmpty, withStrings]

/-- The border has the same sides at the same edges. -/
theorem Border.sides_withStrings (b : Border) :
    (b.withStrings word).sides = b.sides.map fun (edge, side) => (edge, side.withStrings word) := by
  obtain ⟨top, right, bottom, left⟩ := b
  cases top <;> cases right <;> cases bottom <;> cases left <;> rfl

@[simp] theorem Border.bare_sideMarkup (b : Border) :
    (b.withStrings word).sideMarkup.map bare = b.sideMarkup.map bare := by
  unfold sideMarkup
  rw [sides_withStrings, List.map_map, List.map_map, List.map_map]
  exact List.map_congr_left fun _ _ => BorderSide.bare_markup word _ _

@[simp] theorem Border.bare_paragraphMarkup (b : Border) :
    (b.withStrings word).paragraphMarkup.map bare = b.paragraphMarkup.map bare := by
  unfold paragraphMarkup
  rw [isEmpty_withStrings]
  split
  · rfl
  · simp

theorem ParagraphStyles.bare_markup (s : ParagraphStyles) (lineSpacing : LineSpacing) :
    ((s.withStrings word).markup lineSpacing).bare = (s.markup lineSpacing).bare := by
  -- running paragraphs may have no font of their own
  cases hfont : s.normal.font <;> simp [markup, withStrings, hfont]

theorem HeadingStyle.bare_markup (s : HeadingStyle) (level : Nat) :
    ((s.withStrings word).markup level).bare = (s.markup level).bare := by
  -- what a heading keeps together is written as marks, so each choice is looked at
  cases hnext : s.keepWithNext <;> cases hlines : s.keepLines <;>
    simp [markup, withStrings, bare_styleDefinition, hnext, hlines]

theorem HeadingStyles.toList_withStrings (s : HeadingStyles) :
    (s.withStrings word).toList = s.toList.map (·.withStrings word) := rfl

theorem HeadingStyles.bare_markup (s : HeadingStyles) :
    (s.withStrings word).markup.map bare = s.markup.map bare := by
  unfold markup
  rw [toList_withStrings, List.zipIdx_map, List.map_map, List.map_map, List.map_map]
  exact List.map_congr_left fun _ _ => HeadingStyle.bare_markup word _ _

theorem CodeBlockStyle.bare_markup (s : CodeBlockStyle) :
    (s.withStrings word).markup.bare = s.markup.bare := by
  simp [markup, withStrings, bare_paragraphStyle]

theorem CodeBlockStyle.bare_inlineMarkup (s : CodeBlockStyle) :
    (s.withStrings word).inlineMarkup.bare = s.inlineMarkup.bare := by
  simp [inlineMarkup, withStrings, bare_styleDefinition]

theorem QuoteStyle.bare_markup (s : QuoteStyle) :
    (s.withStrings word).markup.bare = s.markup.bare := by
  simp [markup, withStrings, bare_paragraphStyle]

theorem ListStyle.bare_markup (s : ListStyle) :
    (s.withStrings word).markup.map bare = s.markup.map bare := by
  simp [markup, withStrings, bare_paragraphStyle]

theorem TableStyle.bare_cellMarkup (s : TableStyle) :
    (s.withStrings word).cellMarkup.map bare = s.cellMarkup.map bare := by
  simp [cellMarkup, withStrings, bare_paragraphStyle]

theorem Border.bare_innerMarkup (b : Border) :
    (b.withStrings word).innerMarkup.map bare = b.innerMarkup.map bare := by
  obtain ⟨top, right, bottom, left⟩ := b
  cases top <;> cases left <;> cases bottom <;> cases right <;> simp [innerMarkup, withStrings]

theorem Border.bare_tableMarkup (b : Border) :
    (b.withStrings word).tableMarkup.map bare = b.tableMarkup.map bare := by
  unfold tableMarkup
  rw [isEmpty_withStrings]
  split
  · rfl
  · simp [bare_innerMarkup]

theorem TableStyle.bare_markup (s : TableStyle) :
    (s.withStrings word).markup.bare = s.markup.bare := by
  simp [markup_eq, withStrings, Border.bare_tableMarkup]

theorem Style.bare_markup (s : Style) : (s.withStrings word).markup.bare = s.markup.bare := by
  rw [markup_eq, markup_eq, bare_element, bare_element]
  unfold withStrings
  simp only [List.map_append, List.map_cons, Font.bare_defaultsMarkup,
    ParagraphStyles.bare_markup, HeadingStyles.bare_markup, CodeBlockStyle.bare_markup,
    QuoteStyle.bare_markup, ListStyle.bare_markup, TableStyle.bare_cellMarkup,
    TableStyle.bare_markup, CodeBlockStyle.bare_inlineMarkup]

/-! ## The document part

Only the colour of links gets into this part, and only one tag holds it. The part of the one style is
therefore that of the other in another place (`BodyPolicy.Relocates`), without a shift of the pictures
and with the same relationships. -/

/-- The attributes of a tag with this colour for linked text. -/
def recolor (color : Text) (tag : String) (attributes : List Attribute) : List Attribute :=
  if tag = "w:color" then [⟨"w:val", color⟩] else attributes

theorem relocates_withStrings (s : Style) (links : List Text) :
    (s.bodyPolicy links).Relocates (recolor word) ((s.withStrings word).bodyPolicy links) 0
      links where
  contentWidth := rfl
  mode := rfl
  kept := by
    intro tag attributes htag
    -- the one tag that is recoloured is among those that depend on the place
    refine if_neg fun hcolor => htag ?_
    rw [hcolor]
    decide
  color := rfl
  picture := fun _ _ => rfl
  link := fun _ _ => rfl

theorem Style.documentMarkup_withStrings (s : Style) (es : List Element) :
    (s.partMarkup es .document).mapAttributes (recolor word)
      = (s.withStrings word).partMarkup es .document :=
  (relocates_withStrings word s (Element.allLinks es)).document _ _ es (List.Subset.refl _)

/-! ## Well-formed parts

What a part needs to be well-formed is that its strings keep to the lexicon of the part and that they
can be encoded. `Style.StringsFit` is the first of these for both parts at once. -/

namespace Style

variable {s : Style} {es : List Element}

theorem isEncodable_of_package {archive : Archive} (h : s.package es = .ok archive) (part : Part) :
    (s.partText es part).IsEncodable := by
  obtain ⟨_, -, -, hdata⟩ := holds_of_package h part
  exact Text.isEncodable_of_utf8? hdata

/-- The strings of a style can stand in values: there is nothing to strip in the names of fonts, and
no colour ends a value or starts a reference. -/
structure StringsFit (s : Style) : Prop where
  names : ∀ font ∈ s.fonts, ∀ c ∈ font.name, c.isForbidden = false
  colors : ∀ t ∈ s.linkColor :: s.styleColors, ∀ c ∈ t,
    c.isForbidden = false ∧ c ≠ '<' ∧ c ≠ '&' ∧ c ≠ '"'

theorem StringsFit.isWellFormed_styles (h : s.StringsFit)
    (hencodable : (s.partText es .styles).IsEncodable) :
    ∃ root, s.markup.view = [root] ∧ IsWellFormed (s.partText es .styles) root := by
  have hcolors : ∀ t ∈ s.styleColors, ∀ c ∈ t,
      c.isForbidden = false ∧ c ≠ '<' ∧ c ≠ '&' ∧ c ≠ '"' := fun t ht =>
    h.colors t (List.mem_cons_of_mem _ ht)
  -- without forbidden code points there is nothing to strip in the names
  have hstrip : ∀ font ∈ s.fonts, font.name.strip = font.name := fun font hfont =>
    List.filter_eq_self.mpr fun c hc => by rw [h.names font hfont c hc]; rfl
  exact ⟨_, rfl, isWellFormed_print (styleLexicon_legible fun t ht c hc => (hcolors t ht c hc).2)
    (fun _ t ht c hc => (hcolors t ht.2 c hc).1) (s.within_markup hstrip) hencodable⟩

theorem StringsFit.isWellFormed_document (h : s.StringsFit)
    (hencodable : (s.partText es .document).IsEncodable) :
    ∃ root, (s.partMarkup es .document).view = [root] ∧
      IsWellFormed (s.partText es .document) root := by
  have hcolor := h.colors s.linkColor List.mem_cons_self
  -- the colour of links is the only verbatim text of this part
  have hverbatim : ∀ tag t, (documentLexicon s.linkColor).verbatim tag t →
      ∀ c ∈ t, c.isForbidden = false := by
    rintro tag t ⟨-, rfl⟩ c hc
    exact (hcolor c hc).1
  exact ⟨_, rfl, isWellFormed_print (documentLexicon_legible fun c hc => (hcolor c hc).2) hverbatim
    (within_documentMarkup (s.bodyPolicy (Element.allLinks es)) _ _ es) hencodable⟩

/-! ## The style with other strings

Fonts and sides are collected in the same places as before, so all names and all colours of the new
style are the one word. If that word is plain, its strings fit; if it can be encoded, the package is
made whenever it was made before (`Style.exists_package_withStrings`). -/

theorem fonts_withStrings (s : Style) :
    (s.withStrings word).fonts = s.fonts.map (·.withStrings word) := by
  unfold fonts
  simp only [List.map_append, List.map_cons, List.map_map]
  unfold withStrings ParagraphStyles.withStrings
  rw [HeadingStyles.toList_withStrings, List.map_map]
  cases s.paragraphs.normal.font <;> rfl

theorem borderSides_withStrings (s : Style) :
    (s.withStrings word).borderSides = s.borderSides.map (·.withStrings word) := by
  -- a side keeps its edge
  have hsides : ∀ b : Border,
      (b.withStrings word).sides.map (·.2) = (b.sides.map (·.2)).map (·.withStrings word) := by
    intro b
    rw [Border.sides_withStrings, List.map_map, List.map_map]
    rfl
  unfold borderSides withStrings CodeBlockStyle.withStrings QuoteStyle.withStrings
    TableStyle.withStrings
  simp only [List.flatMap_cons, List.flatMap_nil, List.map_append, List.map_nil, hsides]

/-- Every colour of the style is the word. -/
theorem eq_of_mem_styleColors (s : Style) : ∀ t ∈ (s.withStrings word).styleColors, t = word := by
  unfold styleColors
  rw [fonts_withStrings, borderSides_withStrings]
  simp only [List.forall_mem_append, List.forall_mem_map, List.forall_mem_singleton]
  exact ⟨⟨fun _ _ => rfl, rfl⟩, fun _ _ => rfl⟩

/-- And so is every string of the styles part. -/
theorem eq_of_mem_styleTexts (s : Style) : ∀ t ∈ (s.withStrings word).styleTexts, t = word := by
  unfold styleTexts
  rw [fonts_withStrings, borderSides_withStrings]
  simp only [List.forall_mem_append, List.forall_mem_map, List.forall_mem_singleton,
    List.forall_mem_flatMap, List.forall_mem_cons]
  exact ⟨⟨fun _ _ => ⟨rfl, rfl⟩, rfl⟩, fun _ _ => rfl⟩

theorem stringsFit_withStrings (s : Style) (hword : ∀ c ∈ word, c.isPlain = true) :
    (s.withStrings word).StringsFit where
  names := by
    rw [fonts_withStrings, List.forall_mem_map]
    exact fun _ _ c hc => holdsInTags_isForbidden.plain c (hword c hc)
  colors := by
    have hcolor : ∀ c ∈ word, c.isForbidden = false ∧ c ≠ '<' ∧ c ≠ '&' ∧ c ≠ '"' := fun c hc =>
      ⟨holdsInTags_isForbidden.plain c (hword c hc), ne_of_isPlain (hword c hc)⟩
    refine List.forall_mem_cons.mpr ⟨hcolor, fun t ht => ?_⟩
    rw [eq_of_mem_styleColors word s t ht]
    exact hcolor

/-- Other strings that can be encoded do no harm to a package. -/
theorem exists_package_withStrings (hword : word.IsEncodable) {archive : Archive}
    (h : s.package es = .ok archive) :
    ∃ archive', (s.withStrings word).package es = .ok archive' := by
  have hdocument := (isEncodable_document s es).mp (isEncodable_of_package h .document)
  have hrelationships := (isEncodable_relationships s es).mp
    (isEncodable_of_package h .documentRelationships)
  -- a package fails only if some text that is written has a surrogate
  apply exists_package_of_not
  rw [Text.not_isEncodable_iff, not_not]
  unfold documentTexts at hdocument
  rw [List.forall_mem_append] at hdocument
  unfold writtenTexts documentTexts
  simp only [List.forall_mem_append]
  -- targets and shown texts are those of the elements and were written before; the rest is the word
  refine ⟨⟨hrelationships, List.forall_mem_append.mp hdocument.1, ?_⟩, fun t ht => ?_⟩
  · rw [forall_mem_if]
    exact fun _ => List.forall_mem_singleton.mpr hword
  · rw [eq_of_mem_styleTexts word s t ht]
    exact hword

end Style

/-! ## Both parts -/

/-- Both texts are well-formed documents, whose elements have the same tags and the same nesting. -/
def Xml.SameOutline (t u : Text) : Prop :=
  ∃ x y, IsWellFormed t x ∧ IsWellFormed u y ∧ x.outline = y.outline

/-- If the strings of a style can stand in values, then the styles and the document part are
well-formed, and their elements are those that the style has with any other strings, unless a
surrogate keeps the package from being made. -/
theorem Style.sameOutline_withStrings (s : Style) (es : List Element) (h : s.StringsFit) :
    (∃ part, s.package es = .error (.encoding part)) ∨
      ∃ archive, s.package es = .ok archive ∧ ∀ part ∈ [Part.styles, .document],
        archive.Holds part (s.partText es part) ∧
        SameOutline (s.partText es part) ((s.withStrings "x").partText es part) := by
  by_cases hsurrogate : ∃ t ∈ s.writtenTexts es, t.HasSurrogate
  · exact Or.inl ⟨_, package_of_hasSurrogate hsurrogate⟩
  · obtain ⟨archive, hpackage⟩ := exists_package_of_not hsurrogate
    -- the plain style has the same elements, so its package is made as well
    have hother := s.stringsFit_withStrings "x" (by decide)
    obtain ⟨archive', hpackage'⟩ := exists_package_withStrings "x" (Text.isEncodable_ofString _)
      hpackage
    refine Or.inr ⟨archive, hpackage, List.forall_mem_cons.mpr
      ⟨⟨holds_of_package hpackage .styles, ?_⟩,
        List.forall_mem_singleton.mpr ⟨holds_of_package hpackage .document, ?_⟩⟩⟩
    · obtain ⟨x, hx, hwell⟩ := h.isWellFormed_styles (isEncodable_of_package hpackage .styles)
      obtain ⟨y, hy, hwell'⟩ := hother.isWellFormed_styles
        (isEncodable_of_package hpackage' .styles)
      exact ⟨x, y, hwell, hwell', outline_eq hx hy
        (outlineAll_view_of_bare (s.bare_markup "x").symm)⟩
    · obtain ⟨x, hx, hwell⟩ := h.isWellFormed_document (isEncodable_of_package hpackage .document)
      obtain ⟨y, hy, hwell'⟩ := hother.isWellFormed_document
        (isEncodable_of_package hpackage' .document)
      -- here the markup differs in the colour of links alone
      have houtline : outlineAll ((s.withStrings "x").partMarkup es .document).view
          = outlineAll (s.partMarkup es .document).view := by
        rw [← documentMarkup_withStrings, outlineAll_view_mapAttributes]
      exact ⟨x, y, hwell, hwell', outline_eq hx hy houtline.symm⟩

section Quoted

/-- Strings with marks in them that a value can hold: the name is escaped, and a colour ends only at
a quotation mark. -/
def quotedStyle : Style :=
  { defaultFont := { name := "<A & \"B\">", color := "red'>" }, linkColor := "'>",
    linkMode := .inlineUrl }

def quotedElements : List Element := [.paragraph [{ text := "a", link := some "b" }]]

theorem sameOutline_withStrings_quoted :
    ∃ archive, quotedStyle.package quotedElements = .ok archive ∧
      ∀ part ∈ [Part.styles, .document],
        archive.Holds part (quotedStyle.partText quotedElements part) ∧
        SameOutline (quotedStyle.partText quotedElements part)
          ((quotedStyle.withStrings "x").partText quotedElements part) := by
  have hfit : quotedStyle.StringsFit := ⟨by decide, by decide⟩
  have hwritten : ¬∃ t ∈ quotedStyle.writtenTexts quotedElements, t.HasSurrogate := by decide
  obtain ⟨archive, hpackage⟩ := Style.exists_package_of_not hwritten
  -- the package is made, so the first alternative is out
  rcases quotedStyle.sameOutline_withStrings quotedElements hfit with ⟨part, herror⟩ | hok
  · rw [hpackage] at herror
    exact absurd herror nofun
  · exact hok

end Quoted

/-! ## Strings that cannot stand in a value

The conditions on strings are needed. A colour is written as it is, so it can close its element and
open others (`Markup.print_value_smuggled`). A name is escaped, so it stays within its value; but
characters that no document may have are not stripped from it, and then the part cannot be read at all. -/

namespace Markup

/-- What is printed inside is printed. -/
theorem mem_print_element {tag : String} {attributes : List Attribute} {ms : List Markup}
    {m : Markup} (hm : m ∈ ms) {c : CodePoint} (hc : c ∈ m.print) :
    c ∈ (Markup.element tag attributes ms).print := by
  have hall : c ∈ printAll ms := by
    induction ms with
    | nil => exact absurd hm List.not_mem_nil
    | cons n ns ih =>
      rcases List.mem_cons.mp hm with rfl | hm
      · exact List.mem_append_left _ hc
      · exact List.mem_append_right _ (ih hm)
  rw [print]
  simp only [List.mem_append, hall, or_true, true_or]

/-- A colour is written as it is, so a colour that ends its value can bring any markup with it. -/
theorem print_value_smuggled (tag : String) (ms : List Markup) :
    (value tag ("x\"/>" ++ printAll ms ++ "<" ++ Text.ofString tag ++ " w:val=\"y")).print
      = printAll ([value tag "x"] ++ ms ++ [value tag "y"]) := by
  -- the value ends after the first letter, and the rest of the colour is markup
  rw [printAll_append, printAll_append]
  simp only [printAll, value, print, printTag, Attribute.print, List.flatMap_cons, List.flatMap_nil,
    List.append_assoc, List.append_nil]
  rfl

end Markup

/-- The name of a font is printed wherever the font is. -/
theorem Font.mem_print_faceMarkup (f : Font) {c : CodePoint} (hc : c ∈ f.name.escape) :
    c ∈ (faceMarkup f.name).print := by
  simp [faceMarkup, print, printTag, Attribute.print, Attribute.escaped, hc]

theorem Font.mem_print_markup {f : Font} {c : CodePoint} (hc : c ∈ f.name.escape)
    (bold italic : Bool) (kern : Option Int) (extra : List Markup) :
    c ∈ (f.markup bold italic kern extra).print :=
  mem_print_element (by simp) (f.mem_print_faceMarkup hc)

theorem Font.mem_print_defaultsMarkup {f : Font} {c : CodePoint} (hc : c ∈ f.name.escape) :
    c ∈ f.defaultsMarkup.print :=
  mem_print_element (List.mem_singleton_self _) (mem_print_element (List.mem_singleton_self _)
    (mem_print_element (by simp) (f.mem_print_faceMarkup hc)))

namespace Style

variable {s : Style} {es : List Element}

/-- A name of a font is written with all its code points, those included that may not occur. -/
theorem mem_print_markup {font : Font} (hfont : font ∈ s.fonts) {c : CodePoint}
    (hc : c ∈ font.name.escape) : c ∈ s.markup.print := by
  -- a font stands in a style, and the style stands in the part or in one of its lists
  have hstyle : ∀ {m : Markup} {id name : Text} {content : List Markup}, m ∈ content →
      c ∈ m.print → c ∈ (paragraphStyle id name content).print := fun hm hprint =>
    mem_print_element (List.mem_append_right _ hm) hprint
  have hlists : ∀ {m}, m ∈ s.lists.markup → c ∈ m.print → c ∈ s.markup.print := fun hm =>
    mem_print_element (by simp [hm])
  have hcells : ∀ {m}, m ∈ s.tables.cellMarkup → c ∈ m.print → c ∈ s.markup.print := fun hm =>
    mem_print_element (by simp [hm])
  have hmarkup := font.mem_print_markup hc
  unfold fonts at hfont
  simp only [List.mem_append, List.mem_cons, List.not_mem_nil, or_false, List.mem_map] at hfont
  -- one case for each place that a font has in the styles
  rcases hfont with ((rfl | hnormal) | ⟨heading, hheading, rfl⟩) |
    rfl | rfl | rfl | rfl | rfl | rfl
  · exact mem_print_element (by simp) (Font.mem_print_defaultsMarkup hc)
  · have hprint : c ∈ (s.paragraphs.markup s.lineSpacing).print :=
      mem_print_element (List.mem_append_right _ (List.mem_map_of_mem hnormal))
        (hmarkup false false none [])
    exact mem_print_element (by simp) hprint
  · rw [← List.zipIdx_map_fst 0 s.headings.toList] at hheading
    obtain ⟨⟨heading, i⟩, hmem, rfl⟩ := List.mem_map.mp hheading
    have hprint : c ∈ (heading.markup (i + 1)).print :=
      mem_print_element (by simp) (hmarkup true false (some 32) [])
    have hheading : heading.markup (i + 1) ∈ s.headings.markup :=
      List.mem_map.mpr ⟨_, hmem, rfl⟩
    rw [markup_eq]
    exact mem_print_element (by simp [hheading]) hprint
  · have hprint : c ∈ s.codeBlocks.markup.print := hstyle (by simp) (hmarkup false false none [])
    exact mem_print_element (by simp) hprint
  · have hprint : c ∈ s.quotes.markup.print := hstyle (by simp) (hmarkup false true none [])
    exact mem_print_element (by simp) hprint
  · exact hlists List.mem_cons_self (hstyle (by simp) (hmarkup false false none []))
  · exact hlists (List.mem_cons_of_mem _ List.mem_cons_self)
      (hstyle (by simp) (hmarkup false false none []))
  · exact hcells List.mem_cons_self (hstyle (by simp) (hmarkup true false none []))
  · exact hcells (List.mem_cons_of_mem _ List.mem_cons_self)
      (hstyle (by simp) (hmarkup false false none []))

/-- If the colours fit, then the styles part is well-formed exactly if no name of a font holds a
forbidden code point. -/
theorem isWellFormed_styles_iff (hencodable : (s.partText es .styles).IsEncodable)
    (hcolors : ∀ t ∈ s.linkColor :: s.styleColors, ∀ c ∈ t,
      c.isForbidden = false ∧ c ≠ '<' ∧ c ≠ '&' ∧ c ≠ '"') :
    (∃ root, IsWellFormed (s.partText es .styles) root)
      ↔ ∀ font ∈ s.fonts, ∀ c ∈ font.name, c.isForbidden = false := by
  constructor
  · rintro ⟨root, hroot⟩ font hfont c hc
    by_contra hforbidden
    rw [Bool.not_eq_false] at hforbidden
    -- a forbidden code point has no entity, so it is written as it is
    have hescape : c.escape = [c] := by
      have hne : ∀ d : CodePoint, d.isForbidden = false → c ≠ d := by
        rintro d hd rfl
        exact absurd (hd.symm.trans hforbidden) nofun
      unfold CodePoint.escape
      rw [if_neg (hne _ (by decide)), if_neg (hne _ (by decide)), if_neg (hne _ (by decide)),
        if_neg (hne _ (by decide)), if_neg (hne _ (by decide))]
    -- so it stands in the part, whose characters are all permitted
    have hmem : c ∈ font.name.escape := List.mem_flatMap.mpr ⟨c, hc, by simp [hescape]⟩
    have hchar := hroot.characters c (List.mem_append_right _ (mem_print_markup hfont hmem))
    rw [CodePoint.isXmlChar_eq, hforbidden] at hchar
    exact absurd hchar (by simp)
  · intro hnames
    have hfit : s.StringsFit := ⟨hnames, hcolors⟩
    obtain ⟨root, -, hroot⟩ := hfit.isWellFormed_styles hencodable
    exact ⟨root, hroot⟩

end Style

end Wordsmith
