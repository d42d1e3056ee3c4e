import Wordsmith.Proofs.Package.StyleLexicon
import Wordsmith.Proofs.Package.StyleReader

/-!
# Reading properties

Spacing, indentation, borders and fonts are read back from the properties that are written for
them. Each statement is about any element with the child that the writer makes, so it does not
matter which other properties the element has; that they are passed over is stated at the end.

* `Spacing.read_lines_of_child?`, `Indentation.read_of_child?` — distances, of which negative ones are
  read as zero.
* `Border.Legible.read_of_child?` — a border, if its colours stand for themselves.
* `Font.read?_of_child?` — a font, whatever else the run properties say.
-/

namespace Wordsmith

open Xml Markup

/-! ## Properties

`written? name attributes` is the value that an attribute is given in a list of attributes, as it is
read, and `pick tag ms` the first element of that tag among the markup `ms`. Optional attributes that
are not written are read as absent, and for distances as zero, so zero and what is below zero come back
as zero (`getD_toInt?_ifPositive`). -/

section Properties

variable {x : Xml}

/-- Markup that is left out without attributes is not missed where an attribute is asked for. -/
theorem bind_pick_unlessBare (tag name : String) (attributes : List Attribute) :
    (pick tag (unlessBare tag attributes)).bind (·.attribute? name) = written? name attributes := by
  unfold unlessBare
  cases attributes with
  | nil => rfl
  | cons a as => simp

@[simp] theorem pick_unlessBare_of_ne {t tag : String} (h : t ≠ tag) (attributes : List Attribute) :
    pick tag (unlessBare t attributes) = none := by
  unfold unlessBare
  split
  · rfl
  · simp [h]

/-- A distance that is not written is read as zero. -/
theorem getD_toInt?_ifPositive (name : String) (n : Int) :
    ((written? name (Attribute.ifPositive name n)).bind Text.toInt?).getD 0 = max n 0 := by
  unfold Attribute.ifPositive
  -- either the number is positive and written, or zero is read in its place
  split
  · simp [Attribute.int]
    omega
  · simp
    omega

/-- What may be absent comes back as it was, zero and below included. -/
theorem toInt?_ifPresent (name : String) (n : Option Int) :
    (written? name (Attribute.ifPresent name n)).bind Text.toInt? = n := by
  cases n <;> simp [Attribute.ifPresent, Attribute.int]

theorem written?_ifPositive_of_ne {name name' : String} (h : name ≠ name') (n : Int) :
    written? name' (Attribute.ifPositive name n) = none := by
  unfold Attribute.ifPositive
  split <;> simp [Attribute.int, h]

theorem written?_ifPresent_of_ne {name name' : String} (h : name ≠ name') (n : Option Int) :
    written? name' (Attribute.ifPresent name n) = none := by
  cases n <;> simp [Attribute.ifPresent, Attribute.int, h]

end Properties

/-! ## Lines

The spacing of lines has two sources. A style may fix the height of its own lines, which is written as
an exact height, or it takes the spacing of the document with its rule. `Spacing.lineRule` says which
rule that comes to. -/

/-- These attributes are read as this rule for lines, and as nothing else. -/
structure LineSpacing.ReadFrom (attributes : List Attribute) (s : LineSpacing) : Prop where
  value : (written? "w:line" attributes).bind Text.toInt? = s.value
  rule : (written? "w:lineRule" attributes).bind (Text.named? LineRule.written)
    = s.value.map fun _ => s.rule
  other : ∀ name, "w:line" ≠ name → "w:lineRule" ≠ name → written? name attributes = none

namespace LineSpacing

theorem readFrom_nil : ReadFrom [] {} := ⟨rfl, rfl, fun _ _ _ => rfl⟩

/-- The pair of a value and a rule, if the name of the rule is known. -/
theorem readFrom_cons (n : Int) {name : String} {rule : LineRule}
    (hplain : (Text.ofString name).unescape = Text.ofString name)
    (hname : Text.named? LineRule.written (Text.ofString name) = some rule) :
    ReadFrom [.int "w:line" n, .fixed "w:lineRule" name] { rule, value := n } where
  value := by simp [Attribute.int]
  rule := by simp [Attribute.int, Attribute.fixed, hplain, hname]
  other := by
    intro name hline hrule
    simp [Attribute.int, Attribute.fixed, hline, hrule]

theorem readFrom_atLeast (n : Int) :
    ReadFrom [.int "w:line" n, .fixed "w:lineRule" "atLeast"] { rule := .atLeast, value := n } :=
  readFrom_cons n (by decide) rfl

theorem readFrom_exactly (n : Int) :
    ReadFrom [.int "w:line" n, .fixed "w:lineRule" "exactly"] { rule := .exactly, value := n } :=
  readFrom_cons n (by decide) rfl

theorem readFrom_multiple (n : Int) :
    ReadFrom [.int "w:line" n, .fixed "w:lineRule" "auto"] { rule := .multiple, value := n } :=
  readFrom_cons n (by decide) rfl

/-- The spacing of the document is read as the rule that it gives a style without a height of its own.
-/
theorem readFrom_attributes (s : LineSpacing) :
    ReadFrom s.attributes (({} : Spacing).lineRule s) := by
  obtain ⟨rule, value⟩ := s
  cases value with
  | none => cases rule <;> exact readFrom_nil
  | some n =>
    cases rule with
    | auto => exact readFrom_nil
    | atLeast => exact readFrom_atLeast n
    | exactly => exact readFrom_exactly n
    | multiple => exact readFrom_multiple n

end LineSpacing

namespace Spacing

variable (s : Spacing) {x : Xml}

/-- Without a line spacing of the document, the rule for lines is an exact height or none. -/
theorem value_lineRule : (s.lineRule {}).value = s.line := by
  unfold lineRule
  cases s.line <;> rfl

/-- A rule for lines without a value is no rule. -/
theorem lineRule_eq_of_none {lineSpacing : LineSpacing}
    (h : (s.lineRule lineSpacing).value = none) : s.lineRule lineSpacing = {} := by
  unfold lineRule at h ⊢
  split at h
  · cases h
  · rfl
  · rfl
  · cases h

/-- In either case what is written are the two distances and then the attributes of the rule. -/
theorem exists_markup_eq (lineSpacing : LineSpacing) :
    ∃ line, LineSpacing.ReadFrom line (s.lineRule lineSpacing) ∧
      s.markup lineSpacing = unlessBare "w:spacing" (Attribute.ifPositive "w:before" s.before ++
        Attribute.ifPositive "w:after" s.after ++ line) := by
  cases hline : s.line with
  | none =>
    refine ⟨lineSpacing.attributes, ?_, by rw [markup, hline]⟩
    -- without a height the style has the rule of the document
    have hrule : s.lineRule lineSpacing = ({} : Spacing).lineRule lineSpacing := by
      unfold lineRule
      rw [hline]
    exact hrule ▸ lineSpacing.readFrom_attributes
  | some line =>
    refine ⟨_, ?_, by rw [markup, hline]⟩
    rw [lineRule, hline]
    exact LineSpacing.readFrom_exactly line

/-- The spacing that is written into the properties of a paragraph is read back, with the rule for
lines that it stands for. -/
theorem read_lines_of_child? (lineSpacing : LineSpacing)
    (hx : x.child? "w:spacing" = pick "w:spacing" (s.markup lineSpacing)) :
    Spacing.read x = { s.carried with line := (s.lineRule lineSpacing).value } ∧
      LineSpacing.read x = s.lineRule lineSpacing := by
  obtain ⟨line, hline, hmarkup⟩ := s.exists_markup_eq lineSpacing
  -- the three lists of attributes are searched one after the other
  have hattribute : ∀ name, x.childAttribute? "w:spacing" name
      = ((written? name (Attribute.ifPositive "w:before" s.before)).or
        (written? name (Attribute.ifPositive "w:after" s.after))).or (written? name line) := by
    intro name
    unfold childAttribute?
    rw [hx, hmarkup, bind_pick_unlessBare, written?_append, written?_append]
  -- each name belongs to one of the lists and is absent from the others
  have hbefore : x.childAttribute? "w:spacing" "w:before"
      = written? "w:before" (Attribute.ifPositive "w:before" s.before) := by
    simp [hattribute, written?_ifPositive_of_ne, hline.other]
  have hafter : x.childAttribute? "w:spacing" "w:after"
      = written? "w:after" (Attribute.ifPositive "w:after" s.after) := by
    simp [hattribute, written?_ifPositive_of_ne, hline.other]
  have hheight : x.childAttribute? "w:spacing" "w:line" = written? "w:line" line := by
    simp [hattribute, written?_ifPositive_of_ne]
  have hrule : x.childAttribute? "w:spacing" "w:lineRule" = written? "w:lineRule" line := by
    simp [hattribute, written?_ifPositive_of_ne]
  constructor
  · simp [Spacing.read, childNumber?, hbefore, hafter, hheight, getD_toInt?_ifPositive, hline.value,
      carried]
  · unfold LineSpacing.read childNumber?
    rw [hrule, hheight, hline.rule, hline.value]
    cases hvalue : (s.lineRule lineSpacing).value with
    | none => exact (s.lineRule_eq_of_none hvalue).symm
    | some n =>
      rw [Option.map_some, ← hvalue]

/-- A style whose lines follow no document is read back but for negative distances. -/
theorem read_of_child? (hx : x.child? "w:spacing" = pick "w:spacing" s.markup) :
    Spacing.read x = s.carried := by
  rw [(s.read_lines_of_child? {} hx).1, value_lineRule]
  rfl

end Spacing

/-! ## Indentation, borders and fonts

Indentation is read like spacing. For borders and fonts a condition remains: colours are written
verbatim, and one that contains an ampersand can be read as another text. `Border.Legible` and
`Font.Legible` ask that a colour is not changed by resolving references in it. -/

/-- The first line and the hanging indent may be negative; the distances from the margins come back as
zero then. -/
theorem Indentation.read_of_child? (i : Indentation) {x : Xml}
    (hx : x.child? "w:ind" = pick "w:ind" i.markup) : Indentation.read x = i.carried := by
  have hattribute : ∀ name, x.childAttribute? "w:ind" name
      = (((written? name (Attribute.ifPositive "w:left" i.left)).or
        (written? name (Attribute.ifPositive "w:right" i.right))).or
        (written? name (Attribute.ifPresent "w:firstLine" i.firstLine))).or
        (written? name (Attribute.ifPresent "w:hanging" i.hanging)) := by
    intro name
    unfold childAttribute?
    rw [hx, markup, bind_pick_unlessBare, written?_append, written?_append, written?_append]
  simp [read, childNumber?, hattribute, written?_ifPositive_of_ne, written?_ifPresent_of_ne,
    getD_toInt?_ifPositive, toInt?_ifPresent, carried]

/-- Alignment to the left is not written and is what is read if nothing is. -/
theorem Alignment.read_of_child? (a : Alignment) {x : Xml}
    (hx : x.child? "w:jc" = pick "w:jc" (if a = .left then [] else [.value "w:jc" a.name])) :
    Alignment.read x = a := by
  unfold read childAttribute?
  rw [hx]
  cases a <;> rfl

/-- A side of a border as an element. -/
def BorderSide.node (edge : String) (s : BorderSide) : Xml :=
  Markup.node ("w:" ++ edge)
    [.fixed "w:val" s.style.name, .int "w:sz" s.width, .fixed "w:space" "1",
      .verbatim "w:color" s.color] []

/-- A side of a border is read back if its colour stands for itself in a value. -/
theorem BorderSide.read?_node {s : BorderSide} (edge : String)
    (hcolor : s.color.unescape = s.color) : BorderSide.read? (s.node edge) = some s := by
  have hstyle : Text.named? BorderStyle.names (Text.ofString s.style.name).unescape
      = some s.style := by
    cases s.style <;> rfl
  simp [read?, node, Attribute.fixed, Attribute.int, Attribute.verbatim, hcolor, hstyle]

namespace Border

variable {b : Border}

/-- The colours of the sides of a border stand for themselves in a value. -/
def Legible (b : Border) : Prop :=
  ∀ edge ∈ [b.top, b.left, b.bottom, b.right], ∀ side ∈ edge, side.color.unescape = side.color

/-- An edge that is present is one of the sides. -/
theorem mem_sides {edge : Option BorderSide} (hedge : edge ∈ [b.top, b.left, b.bottom, b.right])
    {side : BorderSide} (hside : side ∈ edge) : side ∈ b.sides.map (·.2) := by
  obtain ⟨name, hname⟩ : ∃ name, (name, edge) ∈
      [("top", b.top), ("left", b.left), ("bottom", b.bottom), ("right", b.right)] := by
    simp only [List.mem_cons, List.not_mem_nil, or_false] at hedge
    rcases hedge with rfl | rfl | rfl | rfl
    · exact ⟨"top", by simp⟩
    · exact ⟨"left", by simp⟩
    · exact ⟨"bottom", by simp⟩
    · exact ⟨"right", by simp⟩
  cases hside
  have hmem : (name, side) ∈ b.sides := List.mem_filterMap.mpr ⟨(name, some side), hname, rfl⟩
  exact List.mem_map_of_mem hmem

theorem sideMarkup_eq (b : Border) :
    b.sideMarkup = b.top.toList.map (BorderSide.markup "top") ++
      b.left.toList.map (BorderSide.markup "left") ++
      b.bottom.toList.map (BorderSide.markup "bottom") ++
      b.right.toList.map (BorderSide.markup "right") := by
  obtain ⟨top, right, bottom, left⟩ := b
  cases top <;> cases left <;> cases bottom <;> cases right <;> rfl

theorem eq_of_isEmpty (h : b.isEmpty = true) : b = {} := by
  obtain ⟨top, right, bottom, left⟩ := b
  simp only [isEmpty, Bool.and_eq_true, Option.isNone_iff_eq_none] at h
  obtain ⟨⟨⟨rfl, rfl⟩, rfl⟩, rfl⟩ := h
  rfl

theorem pick_side (edge tag : String) (side : Option BorderSide) :
    pick tag (side.toList.map (BorderSide.markup edge))
      = if "w:" ++ edge = tag then side.map (BorderSide.node edge) else none := by
  cases side with
  | none => exact (ite_self none).symm
  | some side => exact pick_empty _ _ _

/-- A border is read back from the element that holds its sides, whatever else the element holds. -/
theorem Legible.read_of_child? (hb : b.Legible) {tag : String} (others : List Markup)
    (hothers : ∀ edge ∈ ["w:top", "w:left", "w:bottom", "w:right"], pick edge others = none)
    {x : Xml}
    (hx : x.child? tag = if b.isEmpty then none else some (node tag [] (b.sideMarkup ++ others))) :
    Border.read tag x = b := by
  -- a side is found at its edge, or missing at it
  have hread : ∀ edge side, side ∈ [b.top, b.left, b.bottom, b.right] →
      (side.map (BorderSide.node edge)).bind BorderSide.read? = side := by
    intro edge side hside
    cases side with
    | none => rfl
    | some s => exact BorderSide.read?_node edge (hb _ hside s rfl)
  simp only [List.forall_mem_cons] at hothers hread
  obtain ⟨htop, hleft, hbottom, hright, -⟩ := hothers
  -- a border without sides is not written, and read as one without sides
  cases hempty : b.isEmpty with
  | true =>
    rw [hempty, if_pos rfl] at hx
    rw [eq_of_isEmpty hempty]
    unfold read
    rw [hx]
    rfl
  | false =>
    rw [hempty, if_neg Bool.false_ne_true] at hx
    unfold read
    simp [hx, sideMarkup_eq, pick_side, htop, hleft, hbottom, hright, hread]

theorem Legible.read_paragraph (hb : b.Legible) {x : Xml}
    (hx : x.child? "w:pBdr" = pick "w:pBdr" b.paragraphMarkup) : Border.read "w:pBdr" x = b := by
  refine hb.read_of_child? [] (fun _ _ => pick_nil _) (hx.trans ?_)
  rw [List.append_nil]
  unfold paragraphMarkup
  split <;> simp

/-- The borders between the cells are at edges of their own, so they are not read. -/
theorem Legible.read_table (hb : b.Legible) {x : Xml}
    (hx : x.child? "w:tblBorders" = pick "w:tblBorders" b.tableMarkup) :
    Border.read "w:tblBorders" x = b := by
  refine hb.read_of_child? b.innerMarkup ?_ (hx.trans ?_)
  · intro edge hedge
    -- the edges between cells are none of the four that are read
    have hne : edge ≠ "w:insideH" ∧ edge ≠ "w:insideV" := by
      constructor <;> rintro rfl <;> revert hedge <;> decide
    unfold innerMarkup
    split
    · simp [BorderSide.markup, hne.1.symm, hne.2.symm]
    · rfl
  · unfold tableMarkup
    split <;> simp

end Border

/-- The colour of a font stands for itself in a value. -/
def Font.Legible (f : Font) : Prop := f.color.unescape = f.color

/-- A font is read back from the run properties that are written for it, whatever else they say, if
it is legible. -/
theorem Font.read?_of_child? {f : Font} (hf : f.Legible) (bold italic : Bool)
    (kern : Option Int) (extra : List Markup) {x : Xml}
    (hx : x.child? "w:rPr" = pick "w:rPr" [f.markup bold italic kern extra]) :
    Font.read? x = some f := by
  -- kerning stands among the properties and is asked for by none of the readers
  have hkern : ∀ tag, "w:kern" ≠ tag →
      pick tag (kern.toList.map fun n => Markup.value "w:kern" (.ofInt n)) = none := by
    intro tag htag
    cases kern <;> simp [htag]
  have hcolor : f.color.unescape = f.color := hf
  unfold read?
  simp [hx, markup, childNumber?, childAttribute?, faceMarkup, colorMarkup, sizeMarkup, pick_ite,
    hkern, Attribute.escaped, hcolor]

/-! ## Other properties

A property has one tag, or none if it is left out, so a search for another tag goes past it. These are
`simp` lemmas: the style readers search the properties of a style by tag. -/

section Others

variable {tag : String}

@[simp] theorem Spacing.pick_markup_of_ne (h : "w:spacing" ≠ tag) (s : Spacing)
    (lineSpacing : LineSpacing) : pick tag (s.markup lineSpacing) = none :=
  pick_unlessBare_of_ne h _

@[simp] theorem Indentation.pick_markup_of_ne (h : "w:ind" ≠ tag) (i : Indentation) :
    pick tag i.markup = none :=
  pick_unlessBare_of_ne h _

@[simp] theorem Border.pick_paragraphMarkup_of_ne (h : "w:pBdr" ≠ tag) (b : Border) :
    pick tag b.paragraphMarkup = none := by
  unfold paragraphMarkup
  split <;> simp [h]

@[simp] theorem Border.pick_tableMarkup_of_ne (h : "w:tblBorders" ≠ tag) (b : Border) :
    pick tag b.tableMarkup = none := by
  unfold tableMarkup
  split <;> simp [h]

@[simp] theorem pick_shading (fill : Text) (ms : List Markup) :
    pick tag (.shading fill :: ms)
      = if "w:shd" = tag then some (node "w:shd"
          [.fixed "w:val" "clear", .fixed "w:color" "auto", .verbatim "w:fill" fill] [])
        else pick tag ms :=
  pick_empty _ _ _

end Others

end Wordsmith
