import Mathlib.Data.List.Sublists
import Wordsmith.Package.Styles
import Wordsmith.Proofs.Markup.Lexicon

/-!
# The lexicon of the styles

What may stand in the styles part is fixed by a stock of tags. Colours are written as they are, and
only certain attributes hold them; the names of fonts are escaped but not stripped, so that a name
keeps to the lexicon if there is nothing to strip in it. Spacing and indentation leave attributes
out, so their tags have any part of a list of attributes.

* `Style.within_markup` — the part keeps to `styleLexicon`.
-/

namespace Wordsmith

open Xml Markup

/-- The tags of the styles with their attributes, but for those with sides or distances. A style that
is the default of its kind carries one attribute more, so `w:style` has two entries. -/
def plainStyleTags : List (String × List String) :=
  [("w:styles", ["xmlns:w"]), ("w:docDefaults", []), ("w:rPrDefault", []), ("w:rPr", []),
    ("w:rFonts", ["w:ascii", "w:eastAsia", "w:hAnsi", "w:cs"]), ("w:b", []), ("w:bCs", []),
    ("w:i", []), ("w:iCs", []), ("w:color", ["w:val"]), ("w:kern", ["w:val"]), ("w:sz", ["w:val"]),
    ("w:szCs", ["w:val"]), ("w:lang", ["w:val", "w:eastAsia", "w:bidi"]),
    ("w:style", ["w:type", "w:default", "w:styleId"]), ("w:style", ["w:type", "w:styleId"]),
    ("w:name", ["w:val"]), ("w:basedOn", ["w:val"]), ("w:next", ["w:val"]),
    ("w:uiPriority", ["w:val"]), ("w:qFormat", []), ("w:pPr", []), ("w:jc", ["w:val"]),
    ("w:keepNext", []), ("w:keepLines", []), ("w:outlineLvl", ["w:val"]), ("w:pBdr", []),
    ("w:shd", ["w:val", "w:color", "w:fill"]), ("w:tblPr", []), ("w:tblBorders", []),
    ("w:tblCellMar", [])]

/-- The names of the sides of a border, without the prefix. -/
def edges : List String := ["top", "left", "bottom", "right", "insideH", "insideV"]

/-- The attributes of spacing in the order in which they are written. Each of them may be left out, so
the lexicon has a tag for every sublist. -/
def spacingAttributes : List String := ["w:before", "w:after", "w:line", "w:lineRule"]

/-- The attributes of indentation, likewise. -/
def indentationAttributes : List String := ["w:left", "w:right", "w:firstLine", "w:hanging"]

/-- All tags of the styles. The sides of a border and the margins of a cell share their names (`edges`)
and differ in their attributes. -/
def styleTags : List (String × List String) :=
  plainStyleTags ++
    edges.map (fun edge => ("w:" ++ edge, ["w:val", "w:sz", "w:space", "w:color"])) ++
    edges.map (fun edge => ("w:" ++ edge, ["w:w", "w:type"])) ++
    spacingAttributes.sublists.map ("w:spacing", ·) ++
    indentationAttributes.sublists.map ("w:ind", ·)

/-- The tags that hold a colour, which is written without escaping. -/
def colorTags : List String := ["w:color", "w:shd"] ++ edges.map ("w:" ++ ·)

/-- The lexicon of the styles part with these colours. -/
def styleLexicon (colors : List Text) : Lexicon where
  tags := styleTags
  verbatim tag t := tag ∈ colorTags ∧ t ∈ colors

/-- A tag with any part of a list of attributes is well named if it is with all of them. -/
theorem named_sublists {tag : String} {names : List String}
    (h : isName tag = true ∧ names.Nodup ∧ ∀ name ∈ names, isName name = true) :
    ∀ e ∈ names.sublists.map (tag, ·),
      isName e.1 = true ∧ e.2.Nodup ∧ ∀ name ∈ e.2, isName name = true := by
  intro e he
  obtain ⟨part, hpart, rfl⟩ := List.mem_map.mp he
  have hsub : part.Sublist names := List.mem_sublists.mp hpart
  exact ⟨h.1, h.2.1.sublist hsub, fun name hname => h.2.2 name (hsub.subset hname)⟩

/-- The finite stock of tags is checked as such; of the sublists only the full lists are. -/
theorem styleLexicon_named (colors : List Text) : (styleLexicon colors).Named where
  names := by
    show ∀ e ∈ styleTags, _
    refine List.forall_mem_append.mpr ⟨List.forall_mem_append.mpr ⟨?_, ?_⟩, ?_⟩
    · decide
    · exact named_sublists (by decide)
    · exact named_sublists (by decide)

/-- Colours are the only verbatim texts of the styles, so the part can be read back if no colour holds
a character that ends a value or opens a tag. -/
theorem styleLexicon_legible {colors : List Text}
    (h : ∀ t ∈ colors, ∀ c ∈ t, c ≠ '<' ∧ c ≠ '&' ∧ c ≠ '"') : (styleLexicon colors).Legible where
  toNamed := styleLexicon_named colors
  verbatim := fun _ t ht => h t ht.2

variable {colors : List Text}

/-! ## Tags

An element keeps to the lexicon if its tag with the names of its attributes is in `styleTags` and each
value is fixed, a number, escaped or a colour of the list. Most styles are marks (`.empty tag []`),
values (`.value`) and groups (`.element tag []`), which have one lemma each; membership in
`plainStyleTags` is decided where a lemma is used. -/

theorem mem_styleTags {e : String × List String} (h : e ∈ plainStyleTags) :
    e ∈ (styleLexicon colors).tags := by
  simp only [styleLexicon, styleTags, List.mem_append]
  exact Or.inl (Or.inl (Or.inl (Or.inl h)))

namespace Markup

theorem within_styleMark {tag : String} (hmem : (tag, []) ∈ plainStyleTags) :
    Within (styleLexicon colors) (.empty tag []) :=
  .empty (.bare (mem_styleTags hmem))

/-- A value may be anything the tag allows: a fixed word, a number, an escaped text, or a colour where
colours are allowed. -/
theorem within_styleValue {tag : String} {t : Text} (hmem : (tag, ["w:val"]) ∈ plainStyleTags)
    (h : Written ((styleLexicon colors).verbatim tag) t) :
    Within (styleLexicon colors) (.value tag t) :=
  .empty (.of_mem (mem_styleTags hmem) h)

theorem within_styleNumber {tag : String} (hmem : (tag, ["w:val"]) ∈ plainStyleTags) (n : Int) :
    Within (styleLexicon colors) (.value tag (.ofInt n)) :=
  within_styleValue hmem (.ofInt n)

theorem within_styleGroup {tag : String} {ms : List Markup} (hmem : (tag, []) ∈ plainStyleTags)
    (h : ∀ m ∈ ms, Within (styleLexicon colors) m) :
    Within (styleLexicon colors) (.element tag [] ms) :=
  .element (.bare (mem_styleTags hmem)) h

/-- An element that is left out without attributes keeps to the lexicon if it does with them. -/
theorem within_unlessBare {l : Lexicon} {tag : String} {attributes : List Attribute}
    (h : TagWithin l tag attributes) : ∀ m ∈ unlessBare tag attributes, Within l m := by
  unfold unlessBare
  split
  · exact nofun
  · exact List.forall_mem_singleton.mpr (.empty h)

end Markup

/-! ## Distances

Spacing and indentation write some of their attributes. `Attribute.Among` says that what is written is
a sublist of the full list, in its order, with plain values; it is closed under appending, so an
emitter that chains optional attributes (`Spacing.markup`, `Indentation.markup`) is followed piece by
piece and ends in one of the sublists of the lexicon. -/

/-- The attributes are some of these, in this order, and their values are plain. -/
structure Attribute.Among (names : List String) (attributes : List Attribute) : Prop where
  names : (attributes.map (·.name)).Sublist names
  plain : ∀ a ∈ attributes, ∀ c ∈ a.written, c.isPlain = true

namespace Attribute

/-- Lists that follow each other in the full list may be written one after the other. -/
theorem Among.append {names names' : List String} {attributes attributes' : List Attribute}
    (h : Among names attributes) (h' : Among names' attributes') :
    Among (names ++ names') (attributes ++ attributes') where
  names := by
    rw [List.map_append]
    exact h.names.append h'.names
  plain := List.forall_mem_append.mpr ⟨h.plain, h'.plain⟩

theorem among_nil (names : List String) : Among names [] := ⟨List.nil_sublist _, nofun⟩

theorem among_int (name : String) (n : Int) : Among [name] [.int name n] :=
  ⟨List.Sublist.refl _, List.forall_mem_singleton.mpr fun _ hc => isPlain_of_mem_ofInt hc⟩

theorem among_ifPositive (name : String) (n : Int) : Among [name] (ifPositive name n) := by
  unfold ifPositive
  split
  · exact among_int name n
  · exact among_nil _

theorem among_ifPresent (name : String) (n : Option Int) : Among [name] (ifPresent name n) := by
  cases n with
  | none => exact among_nil _
  | some n => exact among_int name n

/-- The spacing of lines is written as a pair, the value and the rule it is read by. -/
theorem among_lineRule {rule : String}
    (hrule : (Text.ofString rule).all CodePoint.isPlain = true) (n : Int) :
    Among ["w:line", "w:lineRule"] [.int "w:line" n, .fixed "w:lineRule" rule] :=
  (among_int "w:line" n).append
    ⟨List.Sublist.refl _, List.forall_mem_singleton.mpr (List.all_eq_true.mp hrule)⟩

end Attribute

/-- Automatic spacing of lines writes nothing; the other rules write the pair. -/
theorem LineSpacing.among_attributes (s : LineSpacing) :
    Attribute.Among ["w:line", "w:lineRule"] s.attributes := by
  -- the names of the rules, which are the only texts here
  have hplain : ∀ rule ∈ ["atLeast", "exactly", "auto"],
      (Text.ofString rule).all CodePoint.isPlain = true := by decide
  obtain ⟨rule, value⟩ := s
  cases value with
  | none => exact Attribute.among_nil _
  | some n =>
    cases rule with
    | auto => exact Attribute.among_nil _
    | atLeast => exact Attribute.among_lineRule (hplain "atLeast" (by decide)) n
    | exactly => exact Attribute.among_lineRule (hplain "exactly" (by decide)) n
    | multiple => exact Attribute.among_lineRule (hplain "auto" (by decide)) n

/-- Either distance may be left out if it is not positive, and the pair for the line is that of the
spacing itself or else of the document, so four of the sublists with the pair and four without it
occur. -/
theorem Spacing.within_markup (s : Spacing) (lineSpacing : LineSpacing) :
    ∀ m ∈ s.markup lineSpacing, Within (styleLexicon colors) m := by
  -- the tag is in the lexicon whichever of the attributes are left out
  have htag : ∀ line, Attribute.Among ["w:line", "w:lineRule"] line →
      TagWithin (styleLexicon colors) "w:spacing"
        (Attribute.ifPositive "w:before" s.before ++ Attribute.ifPositive "w:after" s.after ++
          line) := by
    intro line hline
    have hall : Attribute.Among spacingAttributes _ :=
      ((Attribute.among_ifPositive "w:before" s.before).append
        (Attribute.among_ifPositive "w:after" s.after)).append hline
    refine ⟨?_, fun a ha => .plain (hall.plain a ha)⟩
    simp only [styleLexicon, styleTags, List.mem_append]
    exact Or.inl (Or.inr (List.mem_map_of_mem (List.mem_sublists.mpr hall.names)))
  -- the line of the spacing itself, or that of the document
  refine within_unlessBare (htag _ ?_)
  split
  · exact Attribute.among_lineRule (by decide) _
  · exact lineSpacing.among_attributes

/-- Indentation to the sides is written if positive, the indentation of the first line whenever it is
given. -/
theorem Indentation.within_markup (i : Indentation) :
    ∀ m ∈ i.markup, Within (styleLexicon colors) m := by
  have hall : Attribute.Among indentationAttributes _ :=
    (((Attribute.among_ifPositive "w:left" i.left).append
      (Attribute.among_ifPositive "w:right" i.right)).append
      (Attribute.among_ifPresent "w:firstLine" i.firstLine)).append
      (Attribute.among_ifPresent "w:hanging" i.hanging)
  refine within_unlessBare ⟨?_, fun a ha => .plain (hall.plain a ha)⟩
  simp only [styleLexicon, styleTags, List.mem_append]
  exact Or.inr (List.mem_map_of_mem (List.mem_sublists.mpr hall.names))

/-! ## Borders and fonts

Here the configuration enters: the colours of sides, backgrounds and fonts are verbatim and must be
listed, and the name of a font is escaped without being stripped, so it must have nothing to strip
(`Font.Listed`). -/

theorem mem_colorTags {edge : String} (h : edge ∈ edges) : "w:" ++ edge ∈ colorTags :=
  List.mem_append_right _ (List.mem_map_of_mem h)

/-- A side is written at any of the six edges, and its colour must be listed. -/
theorem BorderSide.within_markup {edge : String} (hedge : edge ∈ edges) {s : BorderSide}
    (hcolor : s.color ∈ colors) : Within (styleLexicon colors) (s.markup edge) := by
  -- the line of a side has one of a few fixed names, and its colour is the verbatim value
  refine .empty (.of_mem ?_ ⟨?_, .ofInt s.width, .ofString (by decide),
    .verbatim ⟨mem_colorTags hedge, hcolor⟩⟩)
  · simp only [styleLexicon, styleTags, List.mem_append]
    exact Or.inl (Or.inl (Or.inl (Or.inr (List.mem_map_of_mem hedge))))
  · cases s.style <;> exact .ofString (by decide)

/-- The sides of a border are labelled with four of the six edges; the other two lie between the cells
of a table. -/
theorem Border.mem_edges {b : Border} {edge : String} {side : BorderSide}
    (h : (edge, side) ∈ b.sides) : edge ∈ edges := by
  obtain ⟨⟨name, present⟩, hname, heq⟩ := List.mem_filterMap.mp h
  obtain ⟨_, -, heq⟩ := Option.map_eq_some_iff.mp heq
  obtain ⟨rfl, -⟩ := Prod.mk.injEq .. ▸ heq
  have hnames : name ∈ ["top", "left", "bottom", "right"] := by
    simp only [List.mem_cons, Prod.mk.injEq, List.not_mem_nil, or_false] at hname ⊢
    tauto
  exact (by decide : ∀ name ∈ ["top", "left", "bottom", "right"], name ∈ edges) name hnames

/-- The colours of the sides of a border are listed. -/
def Border.Listed (colors : List Text) (b : Border) : Prop :=
  ∀ side ∈ b.sides.map (·.2), side.color ∈ colors

theorem Border.within_sideMarkup {b : Border} (hborder : b.Listed colors) :
    ∀ m ∈ b.sideMarkup, Within (styleLexicon colors) m := by
  intro m hm
  obtain ⟨⟨edge, side⟩, hside, rfl⟩ := List.mem_map.mp hm
  exact BorderSide.within_markup (mem_edges hside) (hborder side (List.mem_map_of_mem hside))

/-- A border without sides is left out as a whole. -/
theorem Border.within_paragraphMarkup {b : Border} (hborder : b.Listed colors) :
    ∀ m ∈ b.paragraphMarkup, Within (styleLexicon colors) m := by
  unfold paragraphMarkup
  split
  · exact nofun
  · exact List.forall_mem_singleton.mpr
      (within_styleGroup (by decide) (within_sideMarkup hborder))

theorem within_shading {fill : Text}
    (h : Written ((styleLexicon colors).verbatim "w:shd") fill) :
    Within (styleLexicon colors) (.shading fill) :=
  .empty (.of_mem (mem_styleTags (by simp [plainStyleTags, Attribute.fixed, Attribute.verbatim]))
    ⟨.ofString (by decide), .ofString (by decide), h⟩)

namespace Font

/-- There is nothing to strip in the name of a font, and its colour is listed. -/
structure Listed (colors : List Text) (f : Font) : Prop where
  name : f.name.strip = f.name
  color : f.color ∈ colors

variable {f : Font}

/-- The name of a font is written four times over, once for each kind of script. -/
theorem Listed.within_faceMarkup (h : f.Listed colors) :
    Within (styleLexicon colors) (faceMarkup f.name) := by
  -- stripping changes nothing here, so the name counts as an escaped text
  have hname : Written ((styleLexicon colors).verbatim "w:rFonts") f.name.escape :=
    h.name ▸ .escaped f.name
  exact .empty (.of_mem (mem_styleTags (by simp [plainStyleTags, Attribute.escaped]))
    ⟨hname, hname, hname, hname⟩)

theorem Listed.within_colorMarkup (h : f.Listed colors) :
    Within (styleLexicon colors) f.colorMarkup :=
  within_styleValue (by decide) (.verbatim ⟨by decide, h.color⟩)

theorem within_sizeMarkup (f : Font) : ∀ m ∈ f.sizeMarkup, Within (styleLexicon colors) m :=
  List.forall_mem_cons.mpr ⟨within_styleNumber (by decide) f.size,
    List.forall_mem_singleton.mpr (within_styleNumber (by decide) f.size)⟩

/-- The markup of a font holds its face, its marks, its colour and its size; what an emitter puts
between them (`extra`) has to keep to the lexicon by itself. -/
theorem Listed.within_markup (h : f.Listed colors) {bold italic : Bool} {kern : Option Int}
    {extra : List Markup} (hextra : ∀ m ∈ extra, Within (styleLexicon colors) m) :
    Within (styleLexicon colors) (f.markup bold italic kern extra) := by
  -- bold and italic come in pairs, one mark for each direction of writing
  have hmarks : ∀ (b : Bool) (first second : String), (first, []) ∈ plainStyleTags →
      (second, []) ∈ plainStyleTags →
      ∀ m ∈ (if b then [Markup.empty first [], .empty second []] else []),
        Within (styleLexicon colors) m := by
    intro b first second hfirst hsecond
    split
    · exact List.forall_mem_cons.mpr ⟨within_styleMark hfirst,
        List.forall_mem_singleton.mpr (within_styleMark hsecond)⟩
    · exact nofun
  have hkern : ∀ m ∈ kern.toList.map (fun n => Markup.value "w:kern" (.ofInt n)),
      Within (styleLexicon colors) m :=
    List.forall_mem_map.mpr fun n _ => within_styleNumber (by decide) n
  refine within_styleGroup (by decide) ?_
  simp only [List.forall_mem_append, List.forall_mem_singleton]
  exact ⟨⟨⟨⟨⟨⟨h.within_faceMarkup, hmarks bold "w:b" "w:bCs" (by decide) (by decide)⟩,
    hmarks italic "w:i" "w:iCs" (by decide) (by decide)⟩, h.within_colorMarkup⟩, hkern⟩,
    f.within_sizeMarkup⟩, hextra⟩

end Font

/-! ## Styles

One lemma for each style that is defined.

Each style is a definition around a name, paragraph properties and run properties. The properties were
treated above; what is left for each style is that its own tags are in the lexicon and that its
identifier and its name are plain. -/

theorem Font.Listed.within_plainMarkup {f : Font} (h : f.Listed colors) (bold italic : Bool)
    (kern : Option Int) : Within (styleLexicon colors) (f.markup bold italic kern) :=
  h.within_markup nofun

theorem Font.Listed.within_defaultsMarkup {f : Font} (h : f.Listed colors) :
    Within (styleLexicon colors) f.defaultsMarkup := by
  have hlanguage : Within (styleLexicon colors) (.empty "w:lang"
      [.fixed "w:val" "en-US", .fixed "w:eastAsia" "en-US", .fixed "w:bidi" "ar-SA"]) :=
    .empty (.fixed [("w:val", "en-US"), ("w:eastAsia", "en-US"), ("w:bidi", "ar-SA")]
      (mem_styleTags (by decide)) (by decide))
  refine within_styleGroup (by decide) (List.forall_mem_singleton.mpr
    (within_styleGroup (by decide) (List.forall_mem_singleton.mpr
      (within_styleGroup (by decide) ?_))))
  simp only [List.forall_mem_append, List.forall_mem_cons]
  exact ⟨⟨⟨h.within_faceMarkup, h.within_colorMarkup, nofun⟩, f.within_sizeMarkup⟩, hlanguage,
    nofun⟩

/-- The kind and the identifier of a style are written verbatim, so they have to be plain. -/
theorem within_styleDefinition {type : String} {id : Text} {content : List Markup}
    (htype : (Text.ofString type).all CodePoint.isPlain = true)
    (hid : ∀ c ∈ id, c.isPlain = true)
    (hcontent : ∀ m ∈ content, Within (styleLexicon colors) m) :
    Within (styleLexicon colors) (.styleDefinition type id content) :=
  .element (.of_mem (mem_styleTags (by simp [plainStyleTags, Attribute.fixed, Attribute.verbatim]))
    ⟨.ofString htype, .plain hid⟩) hcontent

theorem within_styleName {tag : String} {name : Text} (hmem : (tag, ["w:val"]) ∈ plainStyleTags)
    (hname : ∀ c ∈ name, c.isPlain = true) :
    Within (styleLexicon colors) (.value tag name) :=
  within_styleValue hmem (.plain hname)

/-- Paragraph styles share their head: a name and what they are based on. -/
theorem within_paragraphStyle {id name : Text} {content : List Markup}
    (hid : ∀ c ∈ id, c.isPlain = true) (hname : ∀ c ∈ name, c.isPlain = true)
    (hcontent : ∀ m ∈ content, Within (styleLexicon colors) m) :
    Within (styleLexicon colors) (.paragraphStyle id name content) := by
  refine within_styleDefinition (by decide) hid (List.forall_mem_append.mpr ⟨?_, hcontent⟩)
  exact List.forall_mem_cons.mpr ⟨within_styleName (by decide) hname,
    List.forall_mem_singleton.mpr (within_styleName (by decide) (by decide))⟩

/-- The style of running paragraphs has the attribute that makes it the default, so it is the one use
of the longer entry for `w:style`. -/
theorem ParagraphStyles.within_markup {s : ParagraphStyles} (lineSpacing : LineSpacing)
    (hfont : ∀ font ∈ s.normal.font.toList, font.Listed colors) :
    Within (styleLexicon colors) (s.markup lineSpacing) := by
  have halignment : ∀ m ∈ (if s.normal.alignment = .left then []
      else [Markup.value "w:jc" s.normal.alignment.name]), Within (styleLexicon colors) m := by
    split
    · exact nofun
    · refine List.forall_mem_singleton.mpr (within_styleName (by decide) ?_)
      cases s.normal.alignment <;> decide
  have hfonts : ∀ m ∈ s.normal.font.toList.map fun font => font.markup,
      Within (styleLexicon colors) m :=
    List.forall_mem_map.mpr fun font hmem => (hfont font hmem).within_plainMarkup _ _ _
  have hspacing : ∀ m ∈ s.spacing.markup lineSpacing, Within (styleLexicon colors) m :=
    s.spacing.within_markup lineSpacing
  -- the standard paragraph: spacing, indentation, and an alignment unless it is to the left
  have hproperties := List.forall_mem_append.mpr ⟨List.forall_mem_append.mpr
    ⟨hspacing, s.normal.indentation.within_markup⟩, halignment⟩
  refine .element (.fixed
    [("w:type", "paragraph"), ("w:default", "1"), ("w:styleId", "Normal")]
    (mem_styleTags (by decide)) (by decide)) ?_
  simp only [List.forall_mem_append, List.forall_mem_cons]
  exact ⟨⟨within_styleName (by decide) (by decide), within_styleMark (by decide),
    within_styleGroup (by decide) hproperties, nofun⟩, hfonts⟩

theorem isPlain_append {s t : Text} (hs : ∀ c ∈ s, c.isPlain = true)
    (ht : ∀ c ∈ t, c.isPlain = true) : ∀ c ∈ s ++ t, c.isPlain = true :=
  List.forall_mem_append.mpr ⟨hs, ht⟩

/-- The levels of headings reach the part as numerals only, in the identifier, the name and the outline
level. -/
theorem HeadingStyle.within_markup {s : HeadingStyle} (level : Nat) (h : s.font.Listed colors) :
    Within (styleLexicon colors) (s.markup level) := by
  -- the identifier and the name end in the level, a numeral
  have hlevel : ∀ c ∈ Text.ofNat level, c.isPlain = true := fun c hc => isPlain_of_mem_ofNat hc
  have hmark : ∀ (b : Bool) (tag : String), (tag, []) ∈ plainStyleTags →
      ∀ m ∈ (if b then [Markup.empty tag []] else []), Within (styleLexicon colors) m := by
    intro b tag hmem
    split
    · exact List.forall_mem_singleton.mpr (within_styleMark hmem)
    · exact nofun
  have hproperties : ∀ m ∈
      (if s.keepWithNext then [Markup.empty "w:keepNext" []] else []) ++
        (if s.keepLines then [.empty "w:keepLines" []] else []) ++ s.spacing.markup ++
        [.value "w:outlineLvl" (.ofInt (level - 1))], Within (styleLexicon colors) m := by
    simp only [List.forall_mem_append, List.forall_mem_singleton]
    exact ⟨⟨⟨hmark _ "w:keepNext" (by decide), hmark _ "w:keepLines" (by decide)⟩,
      s.spacing.within_markup {}⟩, within_styleNumber (by decide) _⟩
  refine within_styleDefinition (by decide) (isPlain_append (by decide) hlevel) ?_
  simp only [List.forall_mem_cons]
  exact ⟨within_styleName (by decide) (isPlain_append (by decide) hlevel),
    within_styleName (by decide) (by decide), within_styleName (by decide) (by decide),
    within_styleName (by decide) (by decide), within_styleMark (by decide),
    within_styleGroup (by decide) hproperties, h.within_plainMarkup _ _ _, nofun⟩

/-- The styles of headings, whose levels are their places. -/
def HeadingStyles.markup (s : HeadingStyles) : List Markup :=
  s.toList.zipIdx.map fun (heading, i) => heading.markup (i + 1)

theorem HeadingStyles.within_markup {s : HeadingStyles}
    (hfonts : ∀ font ∈ s.toList.map (·.font), font.Listed colors) :
    ∀ m ∈ s.markup, Within (styleLexicon colors) m := by
  intro m hm
  obtain ⟨p, hp, rfl⟩ := List.mem_map.mp hm
  have hheading : p.1 ∈ s.toList := List.fst_mem_of_mem_zipIdx hp
  exact HeadingStyle.within_markup _ (hfonts _ (List.mem_map_of_mem hheading))

/-- The colours of the font, of the background and of the border of code are verbatim. -/
theorem CodeBlockStyle.within_markup {s : CodeBlockStyle} (hfont : s.font.Listed colors)
    (hbackground : s.background ∈ colors) (hborder : s.border.Listed colors) :
    Within (styleLexicon colors) s.markup := by
  -- the background is the one colour that belongs to a paragraph
  have hproperties : ∀ m ∈ s.border.paragraphMarkup ++ [.shading s.background] ++
      s.spacing.markup ++ s.indentation.markup, Within (styleLexicon colors) m := by
    simp only [List.forall_mem_append, List.forall_mem_singleton]
    exact ⟨⟨⟨Border.within_paragraphMarkup hborder,
      within_shading (.verbatim ⟨by decide, hbackground⟩)⟩, s.spacing.within_markup {}⟩,
      s.indentation.within_markup⟩
  exact within_paragraphStyle (by decide) (by decide)
    (List.forall_mem_cons.mpr ⟨within_styleGroup (by decide) hproperties,
      List.forall_mem_singleton.mpr (hfont.within_plainMarkup _ _ _)⟩)

theorem CodeBlockStyle.within_inlineMarkup {s : CodeBlockStyle} (hfont : s.font.Listed colors) :
    Within (styleLexicon colors) s.inlineMarkup := by
  have hshading : Within (styleLexicon colors) (.shading "F9F2F4") :=
    within_shading (.ofString (by decide))
  exact within_styleDefinition (by decide) (by decide)
    (List.forall_mem_cons.mpr ⟨within_styleName (by decide) (by decide),
      List.forall_mem_singleton.mpr
        (hfont.within_markup (List.forall_mem_singleton.mpr hshading))⟩)

theorem QuoteStyle.within_markup {s : QuoteStyle} (hfont : s.font.Listed colors)
    (hborder : s.border.Listed colors) : Within (styleLexicon colors) s.markup := by
  have hproperties : ∀ m ∈ s.border.paragraphMarkup ++ s.spacing.markup ++ s.indentation.markup,
      Within (styleLexicon colors) m := by
    simp only [List.forall_mem_append]
    exact ⟨⟨Border.within_paragraphMarkup hborder, s.spacing.within_markup {}⟩,
      s.indentation.within_markup⟩
  exact within_paragraphStyle (by decide) (by decide)
    (List.forall_mem_cons.mpr ⟨within_styleGroup (by decide) hproperties,
      List.forall_mem_singleton.mpr (hfont.within_plainMarkup _ _ _)⟩)

theorem ListStyle.within_markup {s : ListStyle} (hbullet : s.bulletFont.Listed colors)
    (hnumbered : s.numberedFont.Listed colors) :
    ∀ m ∈ s.markup, Within (styleLexicon colors) m := by
  have hitem : ∀ {id name : Text} {font : Font}, (∀ c ∈ id, c.isPlain = true) →
      (∀ c ∈ name, c.isPlain = true) → font.Listed colors →
      Within (styleLexicon colors) (.paragraphStyle id name
        [.element "w:pPr" [] ({ left := s.indentation : Indentation }).markup, font.markup]) :=
    fun hid hname hfont => within_paragraphStyle hid hname
      (List.forall_mem_cons.mpr ⟨within_styleGroup (by decide) (Indentation.within_markup _),
        List.forall_mem_singleton.mpr (hfont.within_plainMarkup _ _ _)⟩)
  exact List.forall_mem_cons.mpr ⟨hitem (by decide) (by decide) hbullet,
    List.forall_mem_singleton.mpr (hitem (by decide) (by decide) hnumbered)⟩

theorem TableStyle.within_cellMarkup {s : TableStyle} (hheader : s.headerFont.Listed colors)
    (hbody : s.bodyFont.Listed colors) :
    ∀ m ∈ s.cellMarkup, Within (styleLexicon colors) m := by
  have hcell : ∀ {id name : Text} {font : Font} (bold : Bool), (∀ c ∈ id, c.isPlain = true) →
      (∀ c ∈ name, c.isPlain = true) → font.Listed colors →
      Within (styleLexicon colors) (.paragraphStyle id name [font.markup bold]) :=
    fun bold hid hname hfont => within_paragraphStyle hid hname
      (List.forall_mem_singleton.mpr (hfont.within_plainMarkup bold _ _))
  exact List.forall_mem_cons.mpr ⟨hcell true (by decide) (by decide) hheader,
    List.forall_mem_singleton.mpr (hcell false (by decide) (by decide) hbody)⟩

/-- The borders between the cells, which run if the box is closed. -/
def Border.innerMarkup (b : Border) : List Markup :=
  match b.top, b.left, b.bottom, b.right with
  | some top, some left, some _, some _ => [top.markup "insideH", left.markup "insideV"]
  | _, _, _, _ => []

/-- The borders of a table, left out if there are none. -/
def Border.tableMarkup (b : Border) : List Markup :=
  if b.isEmpty then [] else [.element "w:tblBorders" [] (b.sideMarkup ++ b.innerMarkup)]

/-- The style of a table with its optional borders named (`Border.tableMarkup`). -/
theorem TableStyle.markup_eq (s : TableStyle) :
    s.markup = .element "w:style" [.fixed "w:type" "table", .fixed "w:styleId" "TableGrid"]
      [.value "w:name" "Table Grid",
        .element "w:tblPr" []
          (s.border.tableMarkup ++
            [.element "w:tblCellMar" []
              (["w:top", "w:left", "w:bottom", "w:right"].map (width · s.cellPadding))])] :=
  rfl

/-- The borders between the cells are two of the sides, at other edges. -/
theorem Border.mem_innerMarkup {b : Border} {m : Markup} (h : m ∈ b.innerMarkup) :
    ∃ side ∈ b.sides.map (·.2), m = side.markup "insideH" ∨ m = side.markup "insideV" := by
  unfold innerMarkup at h
  split at h
  · rename_i top left _ _ htop hleft _ _
    have hsides : top ∈ b.sides.map (·.2) ∧ left ∈ b.sides.map (·.2) := by
      simp [sides, htop, hleft]
    simp only [List.mem_cons, List.not_mem_nil, or_false] at h
    rcases h with rfl | rfl
    · exact ⟨top, hsides.1, Or.inl rfl⟩
    · exact ⟨left, hsides.2, Or.inr rfl⟩
  · exact absurd h List.not_mem_nil

theorem Border.within_tableMarkup {b : Border} (hborder : b.Listed colors) :
    ∀ m ∈ b.tableMarkup, Within (styleLexicon colors) m := by
  have hinner : ∀ m ∈ b.innerMarkup, Within (styleLexicon colors) m := by
    intro m hm
    obtain ⟨side, hside, rfl | rfl⟩ := mem_innerMarkup hm
    · exact BorderSide.within_markup (by decide) (hborder side hside)
    · exact BorderSide.within_markup (by decide) (hborder side hside)
  unfold tableMarkup
  split
  · exact nofun
  · exact List.forall_mem_singleton.mpr (within_styleGroup (by decide)
      (List.forall_mem_append.mpr ⟨within_sideMarkup hborder, hinner⟩))

/-- The margins of a cell and the sides of a border share names and differ in attributes, which is why
both lists of `edges` are in the stock of tags. -/
theorem TableStyle.within_markup {s : TableStyle} (hborder : s.border.Listed colors) :
    Within (styleLexicon colors) s.markup := by
  -- the margins of a cell have the names of its sides and hold numbers
  have hmargin : ∀ m ∈ ["w:top", "w:left", "w:bottom", "w:right"].map (width · s.cellPadding),
      Within (styleLexicon colors) m := by
    refine List.forall_mem_map.mpr fun tag htag => .empty (.of_mem ?_
      ⟨.ofInt _, .ofString (by decide)⟩)
    exact (by decide : ∀ tag ∈ ["w:top", "w:left", "w:bottom", "w:right"],
      (tag, ["w:w", "w:type"]) ∈ styleTags) tag htag
  have hmargins : Within (styleLexicon colors) (.element "w:tblCellMar" [] _) :=
    within_styleGroup (by decide) hmargin
  have hproperties := List.forall_mem_append.mpr ⟨Border.within_tableMarkup hborder,
    List.forall_mem_singleton.mpr hmargins⟩
  rw [markup_eq]
  exact .element (.fixed [("w:type", "table"), ("w:styleId", "TableGrid")]
    (mem_styleTags (by decide)) (by decide)) (List.forall_mem_cons.mpr
      ⟨within_styleName (by decide) (by decide),
        List.forall_mem_singleton.mpr (within_styleGroup (by decide) hproperties)⟩)

/-! ## The part

The part lists the styles in a fixed order (`Style.markup_eq`). Its colours are collected from the
fonts, the background of code and the borders (`Style.styleColors`), and each style is handed the facts
about its own fonts and borders. -/

namespace Style

variable (s : Style)

/-- The fonts that have a place in the styles. -/
def fonts : List Font :=
  [s.defaultFont] ++ s.paragraphs.normal.font.toList ++ s.headings.toList.map (·.font) ++
    [s.codeBlocks.font, s.quotes.font, s.lists.bulletFont, s.lists.numberedFont,
      s.tables.headerFont, s.tables.bodyFont]

/-- The sides of borders that have a place in the styles. -/
def borderSides : List BorderSide :=
  [s.codeBlocks.border, s.quotes.border, s.tables.border].flatMap fun border =>
    border.sides.map (·.2)

/-- Every colour of the configuration that reaches the styles part. -/
def styleColors : List Text :=
  s.fonts.map (·.color) ++ [s.codeBlocks.background] ++ s.borderSides.map (·.color)

/-- The part as the sequence of its styles, in the order in which they are written. -/
theorem markup_eq (s : Style) :
    s.markup = .element "w:styles" [.fixed "xmlns:w" Vocabulary.main]
      ([s.defaultFont.defaultsMarkup, s.paragraphs.markup s.lineSpacing] ++ s.headings.markup ++
        [s.codeBlocks.markup, s.quotes.markup] ++ s.lists.markup ++ s.tables.cellMarkup ++
        [s.tables.markup, s.codeBlocks.inlineMarkup]) :=
  rfl

/-- The styles keep to the lexicon if there is nothing to strip in the names of fonts. -/
theorem within_markup (hnames : ∀ font ∈ s.fonts, font.name.strip = font.name) :
    Within (styleLexicon s.styleColors) s.markup := by
  -- with these colours every font and every border of the style is listed
  have hlisted : ∀ font ∈ s.fonts, font.Listed s.styleColors := fun font hfont =>
    ⟨hnames font hfont,
      List.mem_append_left _ (List.mem_append_left _ (List.mem_map_of_mem hfont))⟩
  have hborder : ∀ border ∈ [s.codeBlocks.border, s.quotes.border, s.tables.border],
      border.Listed s.styleColors := fun border hborder side hside =>
    List.mem_append_right _ (List.mem_map_of_mem (List.mem_flatMap.mpr ⟨border, hborder, hside⟩))
  have hbackground : s.codeBlocks.background ∈ s.styleColors :=
    List.mem_append_left _ (List.mem_append_right _ (List.mem_singleton_self _))
  have hheadings := HeadingStyles.within_markup (s := s.headings) fun font hfont =>
    hlisted font (List.mem_append_left _ (List.mem_append_right _ hfont))
  -- the fonts are told apart by their places in the style
  unfold fonts at hlisted
  simp only [List.forall_mem_append, List.forall_mem_cons, List.forall_mem_map] at hlisted hborder
  obtain ⟨⟨⟨⟨hdefault, -⟩, hnormal⟩, -⟩, hcode, hquote, hbullet, hnumbered, hheader, hbody, -⟩ :=
    hlisted
  obtain ⟨hcodeBorder, hquoteBorder, htableBorder, -⟩ := hborder
  rw [markup_eq]
  refine .element (.fixed [("xmlns:w", Vocabulary.main)] (mem_styleTags (by decide)) (by decide)) ?_
  simp only [List.forall_mem_append, List.forall_mem_cons]
  exact ⟨⟨⟨⟨⟨⟨hdefault.within_defaultsMarkup, ParagraphStyles.within_markup _ hnormal, nofun⟩,
    hheadings⟩, CodeBlockStyle.within_markup hcode hbackground hcodeBorder,
    QuoteStyle.within_markup hquote hquoteBorder, nofun⟩,
    ListStyle.within_markup hbullet hnumbered⟩, TableStyle.within_cellMarkup hheader hbody⟩,
    TableStyle.within_markup htableBorder, CodeBlockStyle.within_inlineMarkup hcode, nofun⟩

end Style

end Wordsmith
