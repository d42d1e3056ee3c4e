import Wordsmith.Proofs.Length
import Wordsmith.Style.Measured

/-!
# Styles measured in twips

What a style stores is in twips, in half-points for the sizes of fonts, and in eighths of a point for
the widths of border lines. Lengths that are given in whole twips come out as they were given where
twips are stored. Sizes and widths both come out as a tenth of the number of twips, cut off toward
zero (`measure_of_isTwips`): ten twips are a half-point, so this is the number of half-points, and the
factor of the widths is the same by definition. A line of one point therefore has the width 2, not 8
(`measure_onePoint_ne_eighths`).

## The architecture

* `IsTwips` says field by field which lengths are given in whole twips and what they are.
* one `measure_eq` for each block of a style reduces it to `Length.twips_of_isTwips` and
  `Length.halfPoints_of_isTwips`, where the bound `2 ^ 53` of exact integers is used.
* `tdiv_ten_eq`, `tdiv_ten_eq_iff` compare a tenth of the twips with the eighths of a point in them.
-/

namespace Wordsmith

/-! ## Lengths in twips

A measured block `IsTwips` of a stored one if each of its lengths is given in whole twips, and the
stored block holds their numbers. Lengths that may be missing are missing in both (`IsTwipsOf`). -/

/-- Both lengths of a page. -/
structure MeasuredPageSize.IsTwips (p : MeasuredPageSize) (q : PageSize) : Prop where
  width : p.width.IsTwips q.width
  height : p.height.IsTwips q.height

/-- The seven margins. -/
structure MeasuredMargins.IsTwips (m : MeasuredMargins) (q : PageMargins) : Prop where
  top : m.top.IsTwips q.top
  right : m.right.IsTwips q.right
  bottom : m.bottom.IsTwips q.bottom
  left : m.left.IsTwips q.left
  header : m.header.IsTwips q.header
  footer : m.footer.IsTwips q.footer
  gutter : m.gutter.IsTwips q.gutter

/-- The length is missing, or given in twips. -/
inductive Length.IsTwipsOf : Option Length → Option Int → Prop where
  | none : IsTwipsOf none none
  | some {l : Length} {t : Int} (h : l.IsTwips t) : IsTwipsOf (some l) (some t)

/-- The spacing of a paragraph; the height of its lines may be missing. -/
structure MeasuredSpacing.IsTwips (s : MeasuredSpacing) (q : Spacing) : Prop where
  before : s.before.IsTwips q.before
  after : s.after.IsTwips q.after
  line : Length.IsTwipsOf s.line q.line

/-- The indentation of a paragraph; that of its first line may be missing. -/
structure MeasuredIndentation.IsTwips (i : MeasuredIndentation) (q : Indentation) : Prop where
  left : i.left.IsTwips q.left
  right : i.right.IsTwips q.right
  firstLine : Length.IsTwipsOf i.firstLine q.firstLine
  hanging : Length.IsTwipsOf i.hanging q.hanging

/-! ## What is stored

One equation for each kind of block. Blocks that are stored in twips keep their numbers; of a font and
of a border line the tenth is stored, by `Length.halfPoints` and by `tenth`. -/

theorem MeasuredPageSize.IsTwips.measure_eq {p : MeasuredPageSize} {q : PageSize}
    (h : p.IsTwips q) : p.measure = .ok q := by
  unfold measure
  rw [Length.twips_of_isTwips h.width, Length.twips_of_isTwips h.height]
  rfl

theorem MeasuredMargins.IsTwips.measure_eq {m : MeasuredMargins} {q : PageMargins}
    (h : m.IsTwips q) : m.measure = .ok q := by
  unfold measure
  rw [Length.twips_of_isTwips h.top, Length.twips_of_isTwips h.right,
    Length.twips_of_isTwips h.bottom, Length.twips_of_isTwips h.left,
    Length.twips_of_isTwips h.header, Length.twips_of_isTwips h.footer,
    Length.twips_of_isTwips h.gutter]
  rfl

theorem Length.twipsOf_of_isTwipsOf {l : Option Length} {t : Option Int} (h : IsTwipsOf l t) :
    twipsOf l = .ok t := by
  cases h with
  | none => rfl
  | @some l t h =>
    show (do return some (← l.twips)) = _
    rw [twips_of_isTwips h]
    rfl

theorem MeasuredSpacing.IsTwips.measure_eq {s : MeasuredSpacing} {q : Spacing} (h : s.IsTwips q) :
    s.measure = .ok q := by
  unfold measure
  rw [Length.twips_of_isTwips h.before, Length.twips_of_isTwips h.after,
    Length.twipsOf_of_isTwipsOf h.line]
  rfl

theorem MeasuredIndentation.IsTwips.measure_eq {i : MeasuredIndentation} {q : Indentation}
    (h : i.IsTwips q) : i.measure = .ok q := by
  unfold measure
  rw [Length.twips_of_isTwips h.left, Length.twips_of_isTwips h.right,
    Length.twipsOf_of_isTwipsOf h.firstLine, Length.twipsOf_of_isTwipsOf h.hanging]
  rfl

/-- The size of a font is stored in half-points. -/
theorem MeasuredFont.measure_eq {f : MeasuredFont} {t : Int} (h : f.size.IsTwips t) :
    f.measure = .ok { name := f.name, size := t.tdiv 10, color := f.color } := by
  unfold measure
  rw [Length.halfPoints_of_isTwips h]
  rfl

/-- Of the width of a border line a tenth is stored. -/
theorem MeasuredBorderSide.measure_eq {s : MeasuredBorderSide} {t : Int}
    (h : s.width.IsTwips t) :
    s.measure = .ok { width := t.tdiv 10, color := s.color, style := s.style } := by
  unfold measure
  rw [Length.twips_of_isTwips h]
  show (do
    let width ← tenth t
    return ({ width, color := s.color, style := s.style } : BorderSide)) = _
  rw [tenth_eq_tdiv h.natAbs_lt.le]
  rfl

/-- A tenth of a number of twips is a quarter of the eighths of a point in them. -/
theorem tdiv_ten_eq (t : Int) : t.tdiv 10 = ((t * 8).tdiv 20).tdiv 4 := by
  have hnat : ∀ m : Nat, (m : Int).tdiv 10 = (((m : Int) * 8).tdiv 20).tdiv 4 := fun m => by
    show ((m / 10 : Nat) : Int) = ((m * 8 / 20 / 4 : Nat) : Int)
    omega
  obtain ⟨m, rfl | rfl⟩ := t.eq_nat_or_neg
  · exact hnat m
  · rw [Int.neg_mul, Int.neg_tdiv, Int.neg_tdiv, Int.neg_tdiv, hnat]

/-- The two are the same number only while it is zero. -/
theorem tdiv_ten_eq_iff (t : Int) : t.tdiv 10 = (t * 8).tdiv 20 ↔ t.natAbs ≤ 2 := by
  have hnat : ∀ m : Nat, (m : Int).tdiv 10 = ((m : Int) * 8).tdiv 20 ↔ m ≤ 2 := fun m => by
    show ((m / 10 : Nat) : Int) = ((m * 8 / 20 : Nat) : Int) ↔ _
    omega
  obtain ⟨m, rfl | rfl⟩ := t.eq_nat_or_neg
  · exact hnat m
  · rw [Int.neg_mul, Int.neg_tdiv, Int.neg_tdiv, Int.neg_inj, Int.natAbs_neg]
    exact hnat m

/-- **Lengths in whole twips.** They are stored as they are, but for the sizes of fonts and the widths
of border lines, of which a tenth is stored, cut off toward zero. The tenth of a width is a quarter of
the eighths of a point in it, so the two are the same only up to two twips, where no eighth is full. -/
theorem measure_of_isTwips {page : MeasuredPageSize} {page' : PageSize} {margins : MeasuredMargins}
    {margins' : PageMargins} {spacing : MeasuredSpacing} {spacing' : Spacing}
    {indentation : MeasuredIndentation} {indentation' : Indentation} {font : MeasuredFont}
    {side : MeasuredBorderSide} {size width : Int} (hpage : page.IsTwips page')
    (hmargins : margins.IsTwips margins') (hspacing : spacing.IsTwips spacing')
    (hindentation : indentation.IsTwips indentation') (hsize : font.size.IsTwips size)
    (hwidth : side.width.IsTwips width) :
    page.measure = .ok page' ∧ margins.measure = .ok margins' ∧ spacing.measure = .ok spacing' ∧
      indentation.measure = .ok indentation' ∧
      font.measure = .ok { name := font.name, size := size.tdiv 10, color := font.color } ∧
      side.measure = .ok { width := width.tdiv 10, color := side.color, style := side.style } ∧
      width.tdiv 10 = ((width * 8).tdiv 20).tdiv 4 ∧
      (width.tdiv 10 = (width * 8).tdiv 20 ↔ width.natAbs ≤ 2) :=
  ⟨hpage.measure_eq, hmargins.measure_eq, hspacing.measure_eq, hindentation.measure_eq,
    MeasuredFont.measure_eq hsize, MeasuredBorderSide.measure_eq hwidth, tdiv_ten_eq width,
    tdiv_ten_eq_iff width⟩

/-- Lengths of both signs, in integers and in doubles, up to the greatest one that is kept exactly. -/
theorem measure_of_isTwips_mixedLengths :
    let low : Length := ⟨.real (.finite true 3 1), .twip⟩
    let high : Length := ⟨.whole 9007199254740991, .twip⟩
    let point : Length := ⟨.real (.finite false 5 2), .twip⟩
    (low.IsTwips (-6) ∧ high.IsTwips 9007199254740991 ∧ point.IsTwips 20) ∧
      MeasuredPageSize.measure ⟨high, point⟩ = .ok ⟨9007199254740991, 20⟩ ∧
      MeasuredMargins.measure ⟨low, point, high, point, low, low, point⟩
        = .ok ⟨-6, 20, 9007199254740991, 20, -6, -6, 20⟩ ∧
      MeasuredSpacing.measure ⟨point, low, some high⟩ = .ok ⟨20, -6, some 9007199254740991⟩ ∧
      MeasuredIndentation.measure ⟨low, high, none, some point⟩
        = .ok ⟨-6, 9007199254740991, none, some 20⟩ ∧
      MeasuredFont.measure { size := high } = .ok { size := 900719925474099 } ∧
      MeasuredBorderSide.measure { width := point } = .ok { width := 2 } ∧
      (2 : Int) ≠ (20 * 8 : Int).tdiv 20 := by
  intro low high point
  -- minus three times two, and five times four, as doubles
  have hlow : low.IsTwips (-6) :=
    ⟨rfl, by norm_num [low, Amount.IsWhole, Binary64.toRat?], by decide⟩
  have hhigh : high.IsTwips 9007199254740991 := ⟨rfl, rfl, by decide⟩
  have hpoint : point.IsTwips 20 :=
    ⟨rfl, by norm_num [point, Amount.IsWhole, Binary64.toRat?], by decide⟩
  have hpage : MeasuredPageSize.IsTwips ⟨high, point⟩ ⟨9007199254740991, 20⟩ := ⟨hhigh, hpoint⟩
  have hmargins : MeasuredMargins.IsTwips ⟨low, point, high, point, low, low, point⟩
      ⟨-6, 20, 9007199254740991, 20, -6, -6, 20⟩ :=
    ⟨hlow, hpoint, hhigh, hpoint, hlow, hlow, hpoint⟩
  have hspacing : MeasuredSpacing.IsTwips ⟨point, low, some high⟩
      ⟨20, -6, some 9007199254740991⟩ := ⟨hpoint, hlow, .some hhigh⟩
  have hindentation : MeasuredIndentation.IsTwips ⟨low, high, none, some point⟩
      ⟨-6, 9007199254740991, none, some 20⟩ := ⟨hlow, hhigh, .none, .some hpoint⟩
  have hsize : (MeasuredFont.mk "Calibri" high "000000").size.IsTwips 9007199254740991 := hhigh
  have hwidth : (MeasuredBorderSide.mk point "000000" .single).width.IsTwips 20 := hpoint
  obtain ⟨hpage, hmargins, hspacing, hindentation, hfont, hside, -, hiff⟩ :=
    measure_of_isTwips hpage hmargins hspacing hindentation hsize hwidth
  exact ⟨⟨hlow, hhigh, hpoint⟩, hpage, hmargins, hspacing, hindentation, hfont, hside,
    fun heq => absurd (hiff.mp heq) (by decide)⟩

/-- A border line of twenty twips, which are one point or eight eighths of a point, has the
width 2. -/
theorem measure_onePoint_ne_eighths :
    let side : MeasuredBorderSide := { width := ⟨.whole 20, .twip⟩ }
    side.width.IsTwips 20 ∧ (20 : Int).natAbs < 2 ^ 53 ∧ side.measure = .ok { width := 2 } ∧
      (20 * 8 : Int).tdiv 20 = 8 ∧ side.measure ≠ .ok { width := (20 * 8 : Int).tdiv 20 } := by
  intro side
  have hside : side.width.IsTwips 20 := ⟨rfl, rfl, by decide⟩
  have hmeasure : side.measure = .ok { width := 2 } := MeasuredBorderSide.measure_eq hside
  refine ⟨hside, by decide, hmeasure, rfl, ?_⟩
  rw [hmeasure]
  intro heq
  exact absurd (congrArg BorderSide.width (Except.ok.inj heq)) (by decide)

end Wordsmith
