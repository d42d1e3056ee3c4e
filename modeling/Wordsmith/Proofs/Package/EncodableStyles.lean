import Wordsmith.Proofs.Markup.AllEncodable
import Wordsmith.Proofs.Package.StyleLexicon

/-!
# Surrogates in the styles

The styles part writes the names and the colours of fonts, the colours of borders and the background
of code. One lemma for each style says which of them it writes.

* `Font.IsEncodable`, `Border.IsEncodable`: the texts of a font and of a border that reach the part
  without a check of their characters.
* `allEncodable_markup` of `Spacing` and `Indentation`: numbers alone, which can always be encoded.
* `isEncodable_markup` of each style: an equivalence, so that a surrogate in the configuration is
  traced to the field that holds it and no field is blamed for another.
-/

namespace Wordsmith

open Markup

/-- The name and the colour of a font hold no surrogate. -/
def Font.IsEncodable (f : Font) : Prop := f.name.IsEncodable ∧ f.color.IsEncodable

/-- The colours of the sides of a border hold no surrogate. -/
def Border.IsEncodable (b : Border) : Prop :=
  ∀ side ∈ b.sides.map (·.2), side.color.IsEncodable

/-! ## Numbers

Distances are written by `Attribute.ifPositive` and `Attribute.ifPresent`, which differ in when they
write an attribute and agree in what it holds: the digits of an integer. The elements they stand in
(`Spacing.markup`, `Indentation.markup`) can be encoded whatever the style is. -/

/-- An element that is left out when it has no attributes can be encoded if its attributes can: left
out, it writes nothing. -/
theorem isEncodable_of_mem_unlessBare {tag : String} {attributes : List Attribute}
    (h : ∀ a ∈ attributes, a.written.IsEncodable) : AllEncodable (unlessBare tag attributes) := by
  unfold unlessBare
  split
  · exact allEncodable_nil
  · simpa using h

theorem isEncodable_ifPositive {name : String} {n : Int} :
    ∀ a ∈ Attribute.ifPositive name n, a.written.IsEncodable := by
  unfold Attribute.ifPositive
  split <;> simp

theorem isEncodable_ifPresent {name : String} {n : Option Int} :
    ∀ a ∈ Attribute.ifPresent name n, a.written.IsEncodable := by
  cases n <;> simp [Attribute.ifPresent]

/-- The rule is one of three fixed names and the value is a number. -/
theorem LineSpacing.isEncodable_attributes (s : LineSpacing) :
    ∀ a ∈ s.attributes, a.written.IsEncodable := by
  obtain ⟨rule, value⟩ := s
  cases value with
  | none => exact nofun
  | some n => cases rule <;> simp [attributes]

theorem Spacing.allEncodable_markup (s : Spacing) (lineSpacing : LineSpacing) :
    AllEncodable (s.markup lineSpacing) := by
  apply isEncodable_of_mem_unlessBare
  rw [List.forall_mem_append, List.forall_mem_append]
  refine ⟨⟨isEncodable_ifPositive, isEncodable_ifPositive⟩, ?_⟩
  split
  · simp
  · exact lineSpacing.isEncodable_attributes

theorem Indentation.allEncodable_markup (i : Indentation) : AllEncodable i.markup := by
  apply isEncodable_of_mem_unlessBare
  rw [List.forall_mem_append, List.forall_mem_append, List.forall_mem_append]
  exact ⟨⟨⟨isEncodable_ifPositive, isEncodable_ifPositive⟩, isEncodable_ifPresent⟩,
    isEncodable_ifPresent⟩

/-! ## Borders

A side writes its colour as it is given, its width in digits and the name of its line. A border is one
element around its sides, and one without sides is not written at all, so both `Border.paragraphMarkup`
and `Border.tableMarkup` come down to `Border.sideMarkup`. -/

theorem BorderSide.isEncodable_markup (edge : String) (s : BorderSide) :
    (s.markup edge).print.IsEncodable ↔ s.color.IsEncodable := by
  simp [markup]

theorem Border.allEncodable_sideMarkup (b : Border) :
    AllEncodable b.sideMarkup ↔ b.IsEncodable := by
  unfold sideMarkup IsEncodable
  rw [allEncodable_map, List.forall_mem_map]
  simp only [BorderSide.isEncodable_markup]

theorem Border.sides_of_isEmpty {b : Border} (h : b.isEmpty = true) : b.sides = [] := by
  obtain ⟨top, right, bottom, left⟩ := b
  simp [isEmpty] at h
  obtain ⟨⟨⟨rfl, rfl⟩, rfl⟩, rfl⟩ := h
  rfl

theorem Border.allEncodable_paragraphMarkup (b : Border) :
    AllEncodable b.paragraphMarkup ↔ b.IsEncodable := by
  rw [← b.allEncodable_sideMarkup]
  unfold paragraphMarkup
  split
  · -- a border that is not written has no sides to blame
    rename_i h
    rw [sideMarkup, sides_of_isEmpty h]
    rfl
  · rw [allEncodable_cons, isEncodable_bare]
    exact and_iff_left allEncodable_nil

/-! ## Fonts

The properties of a font are its face, its colour and its size, with switches for bold and italic and
what the style adds (`extra`). The switches and the kerning are fixed or numbers. -/

/-- Only the face and the colour of a font can bring a surrogate, if what the style adds brings none.
-/
theorem Font.isEncodable_markup (f : Font) {bold italic : Bool} {kern : Option Int}
    {extra : List Markup} (hextra : AllEncodable extra) :
    (f.markup bold italic kern extra).print.IsEncodable ↔ f.IsEncodable := by
  have hbold : AllEncodable (if bold then [.empty "w:b" [], .empty "w:bCs" []] else []) := by
    split <;> simp
  have hitalic : AllEncodable (if italic then [.empty "w:i" [], .empty "w:iCs" []] else []) := by
    split <;> simp
  have hkern : AllEncodable (kern.toList.map fun n => .value "w:kern" (.ofInt n)) := by
    rw [allEncodable_map]
    exact fun n _ => isEncodable_value.mpr (Text.isEncodable_ofInt n)
  unfold markup IsEncodable
  rw [isEncodable_bare]
  simp [hbold, hitalic, hkern, hextra, faceMarkup, colorMarkup, sizeMarkup]

/-! ## Styles

One lemma for each style that is defined. A style definition encloses its identifier and name
(`styleDefinition`, `paragraphStyle`); identifiers are fixed texts, so what remains are the fonts, the
borders and the background of code. -/

theorem Font.isEncodable_defaultsMarkup (f : Font) :
    f.defaultsMarkup.print.IsEncodable ↔ f.IsEncodable := by
  simp [defaultsMarkup, faceMarkup, colorMarkup, sizeMarkup, IsEncodable]

theorem isEncodable_styleDefinition {type : String} {id : Text} {content : List Markup} :
    (styleDefinition type id content).print.IsEncodable
      ↔ id.IsEncodable ∧ AllEncodable content := by
  simp [styleDefinition, AllEncodable]

theorem isEncodable_paragraphStyle {id name : Text} {content : List Markup} :
    (paragraphStyle id name content).print.IsEncodable
      ↔ id.IsEncodable ∧ name.IsEncodable ∧ AllEncodable content := by
  unfold paragraphStyle
  rw [isEncodable_styleDefinition, allEncodable_append]
  simp

theorem ParagraphStyles.isEncodable_markup (s : ParagraphStyles) (lineSpacing : LineSpacing) :
    (s.markup lineSpacing).print.IsEncodable
      ↔ ∀ font ∈ s.normal.font.toList, font.IsEncodable := by
  have halignment : AllEncodable
      (if s.normal.alignment = .left then [] else [.value "w:jc" s.normal.alignment.name]) := by
    split <;> simp
  have hfonts : AllEncodable (s.normal.font.toList.map fun font => font.markup)
      ↔ ∀ font ∈ s.normal.font.toList, font.IsEncodable := by
    rw [allEncodable_map]
    simp only [Font.isEncodable_markup _ allEncodable_nil]
  have hspacing := s.spacing.allEncodable_markup lineSpacing
  have hindentation := s.normal.indentation.allEncodable_markup
  unfold markup
  rw [isEncodable_element, allEncodable_append, ← hfonts]
  simp [hspacing, hindentation, halignment]

theorem HeadingStyle.isEncodable_markup (level : Nat) (s : HeadingStyle) :
    (s.markup level).print.IsEncodable ↔ s.font.IsEncodable := by
  -- the paragraph properties of a heading are switches and numbers
  have hproperties : AllEncodable
      ((if s.keepWithNext then [.empty "w:keepNext" []] else []) ++
        (if s.keepLines then [.empty "w:keepLines" []] else []) ++ s.spacing.markup ++
        [.value "w:outlineLvl" (.ofInt (level - 1))]) := by
    simp [s.spacing.allEncodable_markup {}]
  unfold markup
  rw [isEncodable_styleDefinition]
  simp only [allEncodable_cons, isEncodable_bare, hproperties]
  simp [Font.isEncodable_markup]

/-- The level of a heading is a number in its style, so the six styles are judged by their fonts. -/
theorem HeadingStyles.allEncodable_markup (s : HeadingStyles) :
    AllEncodable s.markup ↔ ∀ font ∈ s.toList.map (·.font), font.IsEncodable := by
  unfold markup
  rw [allEncodable_map, List.forall_mem_map]
  simp only [HeadingStyle.isEncodable_markup]
  exact forall_mem_zipIdx_fst (P := fun (heading : HeadingStyle) => heading.font.IsEncodable)

theorem CodeBlockStyle.isEncodable_markup (s : CodeBlockStyle) :
    s.markup.print.IsEncodable
      ↔ s.border.IsEncodable ∧ s.background.IsEncodable ∧ s.font.IsEncodable := by
  have hspacing := s.spacing.allEncodable_markup {}
  have hindentation := s.indentation.allEncodable_markup
  unfold markup
  rw [isEncodable_paragraphStyle, allEncodable_cons, isEncodable_bare,
    ← s.border.allEncodable_paragraphMarkup]
  simp only [allEncodable_append, hspacing, hindentation]
  simp [Font.isEncodable_markup, shading, and_assoc]

theorem CodeBlockStyle.isEncodable_inlineMarkup (s : CodeBlockStyle) :
    s.inlineMarkup.print.IsEncodable ↔ s.font.IsEncodable := by
  -- code within a line has a background of its own, which cannot be configured
  have hshading : AllEncodable [shading "F9F2F4"] := by
    simp [shading]
  unfold inlineMarkup
  rw [isEncodable_styleDefinition, allEncodable_cons, allEncodable_cons,
    s.font.isEncodable_markup hshading]
  simp

theorem QuoteStyle.isEncodable_markup (s : QuoteStyle) :
    s.markup.print.IsEncodable ↔ s.border.IsEncodable ∧ s.font.IsEncodable := by
  have hspacing := s.spacing.allEncodable_markup {}
  have hindentation := s.indentation.allEncodable_markup
  unfold markup
  rw [isEncodable_paragraphStyle, allEncodable_cons, isEncodable_bare,
    ← s.border.allEncodable_paragraphMarkup]
  simp only [allEncodable_append, hspacing, hindentation]
  simp [Font.isEncodable_markup]

theorem ListStyle.allEncodable_markup (s : ListStyle) :
    AllEncodable s.markup ↔ ∀ font ∈ [s.bulletFont, s.numberedFont], font.IsEncodable := by
  have hindentation := Indentation.allEncodable_markup { left := s.indentation }
  unfold markup
  simp only [allEncodable_cons, isEncodable_paragraphStyle, isEncodable_bare, hindentation]
  simp [Font.isEncodable_markup]

theorem TableStyle.allEncodable_cellMarkup (s : TableStyle) :
    AllEncodable s.cellMarkup ↔ ∀ font ∈ [s.headerFont, s.bodyFont], font.IsEncodable := by
  simp [cellMarkup, isEncodable_paragraphStyle, Font.isEncodable_markup, cellStyle]

/-- The borders between the cells have the colours of two sides. -/
theorem Border.allEncodable_tableMarkup (b : Border) :
    AllEncodable b.tableMarkup ↔ b.IsEncodable := by
  have hinner : b.IsEncodable → AllEncodable b.innerMarkup := by
    intro h m hm
    obtain ⟨side, hside, rfl | rfl⟩ := mem_innerMarkup hm
    · exact (side.isEncodable_markup _).mpr (h side hside)
    · exact (side.isEncodable_markup _).mpr (h side hside)
  unfold tableMarkup
  split
  · -- without sides there are no borders
    rename_i h
    simp [IsEncodable, sides_of_isEmpty h]
  · rw [allEncodable_cons, isEncodable_bare, allEncodable_append, allEncodable_sideMarkup]
    exact ⟨fun h => h.1.1, fun h => ⟨⟨h, hinner h⟩, allEncodable_nil⟩⟩

theorem TableStyle.isEncodable_markup (s : TableStyle) :
    s.markup.print.IsEncodable ↔ s.border.IsEncodable := by
  have hwidth : ∀ tag, (Markup.width tag s.cellPadding).print.IsEncodable := by
    intro tag
    simp [Markup.width]
  -- besides the border there is only the padding of the cells
  rw [markup_eq, ← s.border.allEncodable_tableMarkup, isEncodable_element, allEncodable_cons,
    allEncodable_cons, isEncodable_bare, allEncodable_append, allEncodable_cons, isEncodable_bare]
  exact ⟨fun h => h.2.2.1.1, fun h => ⟨by simp, by simp,
    ⟨h, by simp [hwidth], allEncodable_nil⟩, allEncodable_nil⟩⟩

end Wordsmith
