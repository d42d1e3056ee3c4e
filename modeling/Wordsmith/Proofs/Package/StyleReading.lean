import Wordsmith.Proofs.Package.PropertyReading
import Wordsmith.Proofs.Package.StyleDefinitions

/-!
# Reading the styles part

Each style is read back from its definition, and is found by its identifier since no two styles
share one. So the text of the styles part is read as the style that it carries
(`Style.ofPart?_partText`), for names of permitted characters and colours that could stand in a
value. The part carries no less than it is written from (`Style.markup_carried`), so two styles have
the same styles part exactly if they carry the same (`Style.partText_styles_eq_iff`).

## How the part is read back

* `Markup.ReadsAs` — markup of a style, its identifier, and what a reader makes of it.
* `readsAs_markup` of each style — the reader of that style gives back what the style carries: negative
  distances are zero and everything else is as it was.
* `Style.read?_root` — the styles are found one by one under their identifiers and put together.
* `Style.read?_partText` — the text of the part is read as its root.
-/

namespace Wordsmith

open Xml Markup

/-! ## Styles

Each reader asks a style for its properties of paragraphs and of runs, and in these for certain tags.
The markup that is written has at most one child of each tag, so what is found is what was written
(`Markup.pick`), and the lemmas on properties apply. -/

/-- The markup is the style with this identifier, and is read as `a`. -/
def Markup.ReadsAs {α : Type} (read : Xml → α) (id : Text) (m : Markup) (a : α) : Prop :=
  ∃ x, m.view = [x] ∧ x.styleId? = some id ∧ read x = a

namespace Markup

/-- An identifier that has no reference in it is read as it is. -/
theorem styleId?_styleDefinition {type : String} {id : Text} (hid : id.unescape = id)
    (ms : List Markup) :
    (node "w:style" [.fixed "w:type" type, .verbatim "w:styleId" id] ms).styleId? = some id := by
  rw [styleId?_node]
  simp [Attribute.fixed, Attribute.verbatim, hid]

/-- A style with properties of paragraphs and of runs at its end is read by the properties and by
the font. -/
theorem readsAs_styleDefinition {α : Type} {read : Xml → α} {type : String} {id : Text}
    (hid : id.unescape = id) (before : List Markup) {properties : List Markup} {f : Font}
    (hbefore : pick "w:pPr" before = none ∧ pick "w:rPr" before = none)
    (hf : f.Legible) (bold italic : Bool) (kern : Option Int) {a : α}
    (h : ∀ x p, Font.read? x = some f → x.child? "w:pPr" = some p →
      (∀ tag, p.child? tag = pick tag properties) → read x = a) :
    (styleDefinition type id
      (before ++ [.element "w:pPr" [] properties, f.markup bold italic kern])).ReadsAs read id
        a := by
  -- the properties are the second to last child and the font the last one
  refine ⟨_, view_element _ _ _, styleId?_styleDefinition hid _,
    h _ (node "w:pPr" [] properties) ?_ ?_ fun _ => rfl⟩
  · exact Font.read?_of_child? hf bold italic kern [] (by simp [hbefore])
  · simp [hbefore]

end Markup

section Emitters

variable {x p : Xml}

/-- A heading is read with its level, which it does not know itself: it is that of its slot. -/
theorem HeadingStyle.readsAs_markup (s : HeadingStyle) (slot : HeadingSlot)
    (hfont : s.font.Legible) :
    (s.markup slot.level).ReadsAs HeadingStyle.read? slot.styleId (some (s.carried slot)) := by
  refine readsAs_styleDefinition slot.unescape_styleId
    [.value "w:name" ("heading " ++ Text.ofNat slot.level), .value "w:basedOn" "Normal",
      .value "w:next" "Normal", .value "w:uiPriority" "9", .empty "w:qFormat" []]
    (by simp) hfont true false (some 32) fun x p hread hp hchild => ?_
  have hspacing : Spacing.read p = s.spacing.carried :=
    s.spacing.read_of_child? (by simp [hchild, pick_ite])
  -- the level in the outline counts from zero
  have houtline : p.childNumber? "w:outlineLvl" "w:val" = some ((slot.level : Int) - 1) := by
    simp [childNumber?, childAttribute?, hchild, pick_ite]
  have hnext : p.hasChild "w:keepNext" = s.keepWithNext := by
    cases hkept : s.keepWithNext <;> simp [hasChild, hchild, pick_ite, hkept]
  have hlines : p.hasChild "w:keepLines" = s.keepLines := by
    cases hkept : s.keepLines <;> simp [hasChild, hchild, pick_ite, hkept]
  unfold read?
  simp [hread, hp, hspacing, houtline, hnext, hlines, carried]

/-- The background of code is one more colour that has to stand for itself. -/
theorem CodeBlockStyle.readsAs_markup (s : CodeBlockStyle) (hfont : s.font.Legible)
    (hbackground : s.background.unescape = s.background) (hborder : s.border.Legible) :
    s.markup.ReadsAs CodeBlockStyle.read? "CodeBlock" (some s.carried) := by
  refine readsAs_styleDefinition (by decide) _ (by simp) hfont false false none
    fun x p hread hp hchild => ?_
  have hshading : p.childAttribute? "w:shd" "w:fill" = some s.background := by
    simp [childAttribute?, hchild, Attribute.fixed, Attribute.verbatim, hbackground]
  have hsides : Border.read "w:pBdr" p = s.border :=
    hborder.read_paragraph (by simp [hchild])
  have hindentation : Indentation.read p = s.indentation.carried :=
    s.indentation.read_of_child? (by simp [hchild])
  have hspacing : Spacing.read p = s.spacing.carried :=
    s.spacing.read_of_child? (by simp [hchild])
  unfold read?
  simp [hread, hp, hshading, hsides, hindentation, hspacing, carried]

theorem QuoteStyle.readsAs_markup (s : QuoteStyle) (hfont : s.font.Legible)
    (hborder : s.border.Legible) :
    s.markup.ReadsAs QuoteStyle.read? "Quote" (some s.carried) := by
  refine readsAs_styleDefinition (by decide) _ (by simp) hfont false true none
    fun x p hread hp hchild => ?_
  have hsides : Border.read "w:pBdr" p = s.border :=
    hborder.read_paragraph (by simp [hchild])
  have hindentation : Indentation.read p = s.indentation.carried :=
    s.indentation.read_of_child? (by simp [hchild])
  have hspacing : Spacing.read p = s.spacing.carried :=
    s.spacing.read_of_child? (by simp [hchild])
  unfold read?
  simp [hread, hp, hsides, hindentation, hspacing, carried]

/-- The markup of running paragraphs holds their properties, and their font if there is one. -/
theorem ParagraphStyles.exists_view_markup (s : ParagraphStyles) (lineSpacing : LineSpacing) :
    ∃ x p, (s.markup lineSpacing).view = [x] ∧ x.styleId? = some (Text.ofString "Normal") ∧
      x.child? "w:pPr" = some p ∧
      x.child? "w:rPr" = pick "w:rPr" (s.normal.font.toList.map fun font => font.markup) ∧
      ∀ tag, p.child? tag = pick tag (s.spacing.markup lineSpacing ++ s.normal.indentation.markup ++
        if s.normal.alignment = .left then [] else [.value "w:jc" s.normal.alignment.name]) := by
  have hid : (Text.ofString "Normal").unescape = "Normal" := by decide
  refine ⟨_, node "w:pPr" [] (s.spacing.markup lineSpacing ++ s.normal.indentation.markup ++
    if s.normal.alignment = .left then [] else [.value "w:jc" s.normal.alignment.name]),
    view_element _ _ _, ?_, by simp, by simp, fun _ => rfl⟩
  rw [styleId?_node]
  simp [Attribute.fixed, hid]

/-- The style of running paragraphs also tells the rule for the lines of the document. -/
theorem ParagraphStyles.readsAs_markup (s : ParagraphStyles) (lineSpacing : LineSpacing)
    (hfont : ∀ font ∈ s.normal.font, font.Legible) :
    (s.markup lineSpacing).ReadsAs ParagraphStyles.read? "Normal" (some s.carried) ∧
      (s.markup lineSpacing).ReadsAs LineSpacing.read? "Normal"
        (some (s.spacing.lineRule lineSpacing)) := by
  obtain ⟨x, p, hview, hid, hp, hfonts, hchild⟩ := s.exists_view_markup lineSpacing
  -- without a font of their own, running paragraphs have no run properties at all
  have hread : Font.read? x = s.normal.font := by
    cases hnormal : s.normal.font with
    | none =>
      unfold Font.read?
      rw [hfonts, hnormal]
      rfl
    | some font =>
      refine Font.read?_of_child? (hfont font hnormal) false false none [] ?_
      rw [hfonts, hnormal]
      rfl
  obtain ⟨hspacing, hlines⟩ := s.spacing.read_lines_of_child? lineSpacing (x := p)
    (by simp [hchild, pick_ite])
  have hindentation : Indentation.read p = s.normal.indentation.carried :=
    s.normal.indentation.read_of_child? (by simp [hchild, pick_ite])
  have halign : Alignment.read p = s.normal.alignment :=
    s.normal.alignment.read_of_child? (by simp [hchild])
  refine ⟨⟨x, hview, hid, ?_⟩, x, hview, hid, ?_⟩
  · unfold ParagraphStyles.read?
    simp [hp, hread, halign, hindentation, hspacing, carried]
  · unfold LineSpacing.read?
    rw [hp, Option.map_some, hlines]

/-- A style with run properties at its end is read by its font. -/
theorem Font.readsAs_styleDefinition {type : String} {id : Text} (hid : id.unescape = id)
    (before : List Markup) (hbefore : pick "w:rPr" before = none) {f : Font}
    (hf : f.Legible) (bold italic : Bool) :
    (styleDefinition type id (before ++ [f.markup bold italic])).ReadsAs Font.read? id
      (some f) := by
  refine ⟨_, view_element _ _ _, styleId?_styleDefinition hid _, ?_⟩
  exact Font.read?_of_child? hf bold italic none [] (by simp [hbefore])

/-- The distance of list items, and the fonts of both kinds, are found in their styles. -/
theorem ListStyle.exists_markup_eq (s : ListStyle) (hbullet : s.bulletFont.Legible)
    (hnumbered : s.numberedFont.Legible) :
    ∃ bullet numbered, s.markup = [bullet, numbered] ∧
      bullet.ReadsAs Font.read? "ListBullet" (some s.bulletFont) ∧
      bullet.ReadsAs ListStyle.readIndentation? "ListBullet" (some (max s.indentation 0)) ∧
      numbered.ReadsAs Font.read? "ListNumber" (some s.numberedFont) := by
  -- the distance of items is the left indentation of their style
  have hindentation : ∀ p : Xml, (∀ tag, p.child? tag
      = pick tag ({ left := s.indentation : Indentation }).markup) →
      (Indentation.read p).left = max s.indentation 0 := by
    intro p hchild
    rw [Indentation.read_of_child? _ (hchild "w:ind")]
    rfl
  refine ⟨_, _, rfl, ?_, ?_, ?_⟩
  · exact Font.readsAs_styleDefinition (by decide) [_, _, _] (by simp) hbullet false false
  · refine readsAs_styleDefinition (by decide) [_, _] (by simp) hbullet false false none
      fun x p _ hp hchild => ?_
    unfold readIndentation?
    rw [hp, Option.map_some, hindentation p hchild]
  · exact Font.readsAs_styleDefinition (by decide) [_, _, _] (by simp) hnumbered false false

/-- The cells of the head and of the body have a style each. -/
theorem TableStyle.exists_cellMarkup_eq (s : TableStyle) (hheader : s.headerFont.Legible)
    (hbody : s.bodyFont.Legible) :
    ∃ header body, s.cellMarkup = [header, body] ∧
      header.ReadsAs Font.read? "TableHeader" (some s.headerFont) ∧
      body.ReadsAs Font.read? "TableBody" (some s.bodyFont) :=
  ⟨_, _, rfl,
    Font.readsAs_styleDefinition (by decide) [_, _] (by simp) hheader true false,
    Font.readsAs_styleDefinition (by decide) [_, _] (by simp) hbody false false⟩

/-- The grid tells the border and the padding, which may be negative. -/
theorem TableStyle.readsAs_markup (s : TableStyle) (hborder : s.border.Legible) :
    s.markup.ReadsAs TableStyle.readGrid? "TableGrid" (some (s.border, s.cellPadding)) := by
  have hid : (Text.ofString "TableGrid").unescape = "TableGrid" := by decide
  refine ⟨_, by rw [markup_eq, view_element], ?_, ?_⟩
  · rw [styleId?_node]
    simp [Attribute.fixed, hid]
  · have hsides : Border.read "w:tblBorders" (node "w:tblPr" [] (s.border.tableMarkup ++
        [.element "w:tblCellMar" []
          (["w:top", "w:left", "w:bottom", "w:right"].map (width · s.cellPadding))])) = s.border :=
      hborder.read_table (by simp)
    unfold readGrid?
    simp [childNumber?, childAttribute?, width, Attribute.int] at hsides ⊢
    exact hsides

end Emitters

/-! ## What is written again

A style that was read back is written as it was before. Negative distances are not written, and neither
is zero; and a rule for lines that was taken from the document is written in the same way when it
belongs to the style. -/

/-- What is not positive is not written, whatever it is. -/
theorem Attribute.ifPositive_max (name : String) (n : Int) :
    ifPositive name (max n 0) = ifPositive name n := by
  unfold ifPositive
  by_cases h : 0 < n
  · rw [Int.max_eq_left (Int.le_of_lt h)]
  · rw [Int.max_eq_right (Int.not_lt.mp h), if_neg h, if_neg (Int.lt_irrefl 0)]

theorem Spacing.markup_carried (s : Spacing) (lineSpacing : LineSpacing) :
    s.carried.markup lineSpacing = s.markup lineSpacing := by
  unfold carried markup
  simp only [Attribute.ifPositive_max]

theorem Indentation.markup_carried (i : Indentation) : i.carried.markup = i.markup := by
  unfold carried markup
  simp only [Attribute.ifPositive_max]

/-- The rule for the lines is written alike wherever it comes from. -/
theorem Spacing.markup_lineRule (s : Spacing) (lineSpacing : LineSpacing) :
    ({ s with line := none } : Spacing).markup (s.lineRule lineSpacing) = s.markup lineSpacing := by
  obtain ⟨before, after, line⟩ := s
  obtain ⟨rule, value⟩ := lineSpacing
  cases line with
  | some line => rfl
  | none => cases rule <;> cases value <;> rfl

/-! ## The part

Reading the root needs every colour to stand for itself, which is assumed for the whole list of colours
and handed to each font (`legible_font`) and border (`legible_border`). -/

namespace Style

variable (s : Style)

/-- A style among the definitions is found by its identifier, and read. -/
theorem bind_style?_root {α : Type} {read : Xml → Option α} {id : Text} {m : Markup} {a : Option α}
    (hm : m ∈ s.definitions) (h : m.ReadsAs read id a) : (s.root.style? id).bind read = a := by
  obtain ⟨x, hview, hid, hread⟩ := h
  rw [s.style?_root hm hview hid]
  exact hread

/-- The defaults of the document hold its font. -/
theorem read?_defaults (hfont : s.defaultFont.Legible) :
    ((s.root.child? "w:docDefaults").bind (·.child? "w:rPrDefault")).bind Font.read?
      = some s.defaultFont := by
  have hcolor : s.defaultFont.color.unescape = s.defaultFont.color := hfont
  unfold root Font.defaultsMarkup Font.read?
  simp [childNumber?, childAttribute?, Font.faceMarkup, Font.colorMarkup, Font.sizeMarkup,
    Attribute.escaped, hcolor]

section Legible

variable {s : Style} (hcolors : ∀ t ∈ s.styleColors, t.unescape = t)

include hcolors

theorem legible_font {font : Font} (h : font ∈ s.fonts) : font.Legible :=
  hcolors _ (List.mem_append_left _ (List.mem_append_left _ (List.mem_map_of_mem h)))

theorem legible_border {b : Border}
    (h : b ∈ [s.codeBlocks.border, s.quotes.border, s.tables.border]) : b.Legible :=
  fun _ hedge _ hside => hcolors _ (List.mem_append_right _
    (List.mem_map_of_mem (List.mem_flatMap.mpr ⟨b, h, Border.mem_sides hedge hside⟩)))

/-- The style for a slot is found under its identifier. -/
theorem read?_heading (slot : HeadingSlot) :
    (s.root.style? slot.styleId).bind HeadingStyle.read?
      = some ((s.headings.get slot).carried slot) := by
  have hfont : (s.headings.get slot).font ∈ s.fonts := by
    cases slot <;> simp [fonts, HeadingStyles.get, HeadingStyles.toList]
  -- the style for the slot is among the six
  have hmem : (s.headings.get slot).markup slot.level ∈ s.headings.markup := by
    cases slot <;>
      simp [HeadingStyles.markup, HeadingStyles.get, HeadingStyles.toList, HeadingSlot.level]
  exact s.bind_style?_root (by simp [definitions, hmem])
    (HeadingStyle.readsAs_markup _ slot (legible_font hcolors hfont))

/-- The six styles are read slot by slot. -/
theorem read?_headings : HeadingStyles.read? s.root = some s.headings.carried := by
  unfold HeadingStyles.read?
  simp only [read?_heading hcolors]
  rfl

/-- The indentation is read from the bulleted items; the numbered ones have the same. -/
theorem read?_lists : ListStyle.read? s.root = some s.lists.carried := by
  obtain ⟨bullet, numbered, heq, hbullet, hindentation, hnumbered⟩ := s.lists.exists_markup_eq
    (legible_font hcolors (by simp [fonts])) (legible_font hcolors (by simp [fonts]))
  have hmem : ∀ m ∈ [bullet, numbered], m ∈ s.definitions := by
    intro m hm
    simp only [definitions, List.mem_append, heq]
    tauto
  unfold ListStyle.read?
  rw [s.bind_style?_root (hmem bullet (by simp)) hbullet,
    s.bind_style?_root (hmem numbered (by simp)) hnumbered,
    s.bind_style?_root (hmem bullet (by simp)) hindentation]
  rfl

/-- Three styles make up that of tables. -/
theorem read?_tables : TableStyle.read? s.root = some s.tables := by
  obtain ⟨header, body, heq, hheader, hbody⟩ := s.tables.exists_cellMarkup_eq
    (legible_font hcolors (by simp [fonts])) (legible_font hcolors (by simp [fonts]))
  have hmem : ∀ m ∈ [header, body], m ∈ s.definitions := by
    intro m hm
    simp only [definitions, List.mem_append, heq]
    tauto
  unfold TableStyle.read?
  rw [s.bind_style?_root (by simp [definitions])
      (s.tables.readsAs_markup (legible_border hcolors (by simp))),
    s.bind_style?_root (hmem header (by simp)) hheader,
    s.bind_style?_root (hmem body (by simp)) hbody]
  rfl

/-- The root of the styles part is read as the style that it carries. -/
theorem read?_root : Style.read? s.root = some s.carried := by
  have hnormal := s.paragraphs.readsAs_markup s.lineSpacing fun font hfont =>
    legible_font hcolors (by simp [fonts, Option.mem_toList.mpr hfont])
  have hmem : s.paragraphs.markup s.lineSpacing ∈ s.definitions := by simp [definitions]
  have hdefaults := s.read?_defaults (legible_font hcolors (by simp [fonts]))
  have hcode : (s.root.style? "CodeBlock").bind CodeBlockStyle.read? = some s.codeBlocks.carried :=
    s.bind_style?_root (by simp [definitions]) (s.codeBlocks.readsAs_markup
      (legible_font hcolors (by simp [fonts])) (hcolors _ (by simp [styleColors]))
      (legible_border hcolors (by simp)))
  have hquotes : (s.root.style? "Quote").bind QuoteStyle.read? = some s.quotes.carried :=
    s.bind_style?_root (by simp [definitions]) (s.quotes.readsAs_markup
      (legible_font hcolors (by simp [fonts])) (legible_border hcolors (by simp)))
  -- the reader asks for the defaults first, and then for one style after the other
  obtain ⟨defaults, hfound, hfont⟩ := Option.bind_eq_some_iff.mp hdefaults
  unfold Style.read?
  rw [hfound, s.bind_style?_root hmem hnormal.1, s.bind_style?_root hmem hnormal.2, hcode, hquotes,
    read?_headings hcolors, read?_lists hcolors, read?_tables hcolors]
  simp only [Option.bind_eq_bind, Option.bind_some, hfont]
  rfl

end Legible

/-- The styles part reads as its root, for names of permitted characters and colours that could
stand in a value. -/
theorem read?_partText (es : List Element)
    (hnames : ∀ font ∈ s.fonts, ∀ c ∈ font.name, c.isXmlChar = true)
    (hcolors : ∀ t ∈ s.styleColors, ∀ c ∈ t, c ≠ '<' ∧ c ≠ '&' ∧ c ≠ '"') :
    Xml.read? (s.partText es .styles) = some s.root := by
  -- permitted characters are not stripped
  have hstrip : ∀ font ∈ s.fonts, font.name.strip = font.name := by
    intro font hfont
    refine List.filter_eq_self.mpr fun c hc => ?_
    have hchar := hnames font hfont c hc
    rw [CodePoint.isXmlChar_eq, Bool.and_eq_true] at hchar
    exact hchar.1
  exact read?_of_isDocument ((s.within_markup hstrip).isDocument (styleLexicon_legible hcolors))

/-! ## Two styles with one styles part

Reading shows that the part determines what it carries, and writing again shows that it carries all
that it is written from. Together these say when two styles have the same part. -/

/-- What the styles part carries is what it is written from. -/
theorem markup_carried : s.carried.markup = s.markup := by
  have hnormal : s.paragraphs.carried.markup (s.paragraphs.spacing.lineRule s.lineSpacing)
      = s.paragraphs.markup s.lineSpacing := by
    have hspacing : s.paragraphs.carried.spacing.markup
        (s.paragraphs.spacing.lineRule s.lineSpacing) = s.paragraphs.spacing.markup s.lineSpacing :=
      (Spacing.markup_lineRule s.paragraphs.spacing.carried s.lineSpacing).trans
        (s.paragraphs.spacing.markup_carried s.lineSpacing)
    have hindentation : s.paragraphs.carried.normal.indentation.markup
        = s.paragraphs.normal.indentation.markup := Indentation.markup_carried _
    unfold ParagraphStyles.markup
    rw [hspacing, hindentation]
    rfl
  -- a heading carries its level, but its own level is not written
  have hheading : ∀ (slot : HeadingSlot) (h : HeadingStyle) (level : Nat),
      (h.carried slot).markup level = h.markup level := by
    intro slot h level
    have hspacing : (h.carried slot).spacing.markup = h.spacing.markup :=
      h.spacing.markup_carried {}
    unfold HeadingStyle.markup
    rw [hspacing]
    rfl
  have hheadings : s.headings.carried.markup = s.headings.markup := by
    simp only [HeadingStyles.markup, HeadingStyles.carried, HeadingStyles.toList, List.zipIdx_cons,
      List.zipIdx_nil, List.map_cons, List.map_nil, hheading]
  have hcode : s.codeBlocks.carried.markup = s.codeBlocks.markup := by
    simp only [CodeBlockStyle.markup, CodeBlockStyle.carried, Spacing.markup_carried,
      Indentation.markup_carried]
  have hquotes : s.quotes.carried.markup = s.quotes.markup := by
    simp only [QuoteStyle.markup, QuoteStyle.carried, Spacing.markup_carried,
      Indentation.markup_carried]
  have hlists : s.lists.carried.markup = s.lists.markup := by
    simp only [ListStyle.markup, ListStyle.carried, Indentation.markup, Attribute.ifPositive_max]
  rw [markup_eq, markup_eq]
  simp only [carried, hnormal, hheadings, hcode, hquotes, hlists]
  rfl

/-- Two styles have the same styles part exactly if they carry the same, whatever the elements. -/
theorem partText_styles_eq_iff {s t : Style} (es es' : List Element)
    (hnames : ∀ font ∈ s.fonts ++ t.fonts, ∀ c ∈ font.name, c.isXmlChar = true)
    (hcolors : ∀ w ∈ s.styleColors ++ t.styleColors, ∀ c ∈ w, c ≠ '<' ∧ c ≠ '&' ∧ c ≠ '"') :
    s.partText es .styles = t.partText es' .styles ↔ s.carried = t.carried := by
  rw [List.forall_mem_append] at hnames hcolors
  constructor
  · intro h
    -- equal texts have equal roots, and equal roots are read alike
    have hroot : some s.root = some t.root := by
      rw [← s.read?_partText es hnames.1 hcolors.1, h, t.read?_partText es' hnames.2 hcolors.2]
    have hcarried : some s.carried = some t.carried := by
      rw [← read?_root fun w hw => unescape_self (hcolors.1 w hw), Option.some.inj hroot,
        read?_root fun w hw => unescape_self (hcolors.2 w hw)]
    exact Option.some.inj hcarried
  · intro h
    have hmarkup : s.markup = t.markup := by rw [← s.markup_carried, h, t.markup_carried]
    exact congrArg Vocabulary.print hmarkup

/-- The styles part is read as the style that it carries: for names of permitted characters and
colours that could stand in a value, nothing else about the style is lost or changed. -/
theorem ofPart?_partText (es : List Element)
    (hnames : ∀ font ∈ s.fonts, ∀ c ∈ font.name, c.isXmlChar = true)
    (hcolors : ∀ t ∈ s.styleColors, ∀ c ∈ t, c ≠ '<' ∧ c ≠ '&' ∧ c ≠ '"') :
    Style.ofPart? (s.partText es .styles) = some s.carried := by
  unfold Style.ofPart?
  rw [s.read?_partText es hnames hcolors, Option.bind_some]
  exact read?_root fun t ht => unescape_self (hcolors t ht)

/-- A style with names to be escaped, sides of borders in different colours, a closed box around
tables, and distances that are not written. -/
def framedStyle : Style where
  defaultFont := { name := "A & \"B\"", size := 22 }
  lineSpacing := { rule := .multiple, value := some 360 }
  paragraphs := { normal := { alignment := .both }, spacing := { before := -5, after := 100 } }
  codeBlocks :=
    { border :=
        { top := some { color := "FF0000" }, right := some { width := 8, style := .dotted } } }
  tables := { border := .all { style := .double } }
  lists := { indentation := 0 }

theorem ofPart?_partText_framedStyle :
    (∀ font ∈ framedStyle.fonts, ∀ c ∈ font.name, c.isXmlChar = true) ∧
      (∀ t ∈ framedStyle.styleColors, ∀ c ∈ t, c ≠ '<' ∧ c ≠ '&' ∧ c ≠ '"') ∧
      Style.ofPart? (framedStyle.partText [] .styles) = some framedStyle.carried := by
  have hnames : ∀ font ∈ framedStyle.fonts, ∀ c ∈ font.name, c.isXmlChar = true := by decide
  have hcolors : ∀ t ∈ framedStyle.styleColors, ∀ c ∈ t, c ≠ '<' ∧ c ≠ '&' ∧ c ≠ '"' := by decide
  exact ⟨hnames, hcolors, framedStyle.ofPart?_partText [] hnames hcolors⟩

end Style

end Wordsmith
