import Wordsmith.Proofs.Length
import Wordsmith.Proofs.Number.Order
import Wordsmith.Style.Measured

/-!
# Greater lengths measure no less

An amount in floating point becomes twips by a multiplication that is rounded and a fraction that is
dropped; half-points and the widths of border lines take a second rounding, of the quotient by ten, and
drop a second fraction. Each of these steps keeps the order and treats both signs alike, so the
measures do (`measures_keepOrderAndSign`). They exist whenever the product does: a tenth of what a finite
number holds is far from infinity (`exists_tenth`).

* `Binary64.toInt_ofRatio_mono` — whole parts of rounded quotients, with their signs.
* `tenth_mono`, `exists_tenth` — the second rounding.
* `LengthUnit.exists_mul_eq` — the product with the twips of a unit, as a rounded quotient.
* `Length.twips_mono`, `Length.keepsOrderAndSign_halfPoints` — the measures.
-/

namespace Wordsmith

namespace Binary64

variable {num den num' den' : Nat} {negative negative' : Bool} {t t' : Int}

/-! ## Whole parts with their signs

A quotient is rounded by its magnitude, so changing the sign changes the sign of the result and nothing
else. For the order there are four cases of signs; in one of them both quotients are zero. -/

/-- Another sign gives the negative. -/
theorem toInt_ofRatio_not (negative : Bool) (num den : Nat) :
    (ofRatio (!negative) num den).toInt = (ofRatio negative num den).toInt.map fun t => -t := by
  rcases ofRatio_cases num den with h | h
  · rw [h, h]
    rfl
  · rw [h, h]
    cases negative with
    | false => rfl
    | true => exact congrArg Except.ok (Int.neg_neg _).symm

/-- A whole part is that of the magnitude, with the sign. -/
theorem eq_of_toInt_ofRatio (h : (ofRatio negative num den).toInt = .ok t) :
    t = if negative then -(roundedWhole num den : Int) else roundedWhole num den := by
  rcases ofRatio_cases num den with hround | hround
  · rw [hround] at h
    cases h
  · rw [hround] at h
    exact (Except.ok.inj h).symm

/-- Whole parts are in the order of the quotients with their signs. -/
theorem toInt_ofRatio_mono (hden : 0 < den) (hden' : 0 < den')
    (hle : ((if negative then -1 else 1) * (num / den) : ℚ)
      ≤ (if negative' then -1 else 1) * (num' / den'))
    (h : (ofRatio negative num den).toInt = .ok t)
    (h' : (ofRatio negative' num' den').toInt = .ok t') : t ≤ t' := by
  have hpos : (0 : ℚ) ≤ num / den := by positivity
  have hpos' : (0 : ℚ) ≤ num' / den' := by positivity
  rw [eq_of_toInt_ofRatio h, eq_of_toInt_ofRatio h']
  match negative, negative' with
  | false, false =>
    have horder : (num / den : ℚ) ≤ num' / den' := by simpa using hle
    show (roundedWhole num den : Int) ≤ roundedWhole num' den'
    exact_mod_cast roundedWhole_mono hden hden' horder
  | true, true =>
    have horder : (num' / den' : ℚ) ≤ num / den := by simpa using hle
    exact Int.neg_le_neg (by exact_mod_cast roundedWhole_mono hden' hden horder)
  | true, false =>
    show -(roundedWhole num den : Int) ≤ roundedWhole num' den'
    omega
  | false, true =>
    -- both quotients are zero
    have horder : (num / den : ℚ) ≤ -(num' / den') := by simpa using hle
    show (roundedWhole num den : Int) ≤ -(roundedWhole num' den' : Int)
    rw [roundedWhole_eq_zero hden (by linarith), roundedWhole_eq_zero hden' (by linarith)]
    rfl

/-- Whole parts of finite numbers stay below the power where infinity begins. -/
theorem natAbs_lt_of_toInt_ofRatio (hden : 0 < den)
    (h : (ofRatio negative num den).toInt = .ok t) : (t.natAbs : ℚ) < 2 ^ (1024 : Int) := by
  have hfinite : ofRatio negative num den ≠ .infinite negative := fun hround => by
    rw [hround] at h
    cases h
  have hwhole : t.natAbs = roundedWhole num den := by
    rw [eq_of_toInt_ofRatio h]
    cases negative with
    | false => exact Int.natAbs_natCast _
    | true => exact (Int.natAbs_neg _).trans (Int.natAbs_natCast _)
  rw [hwhole, roundedWhole_eq_floor]
  exact (Nat.floor_le (rounded_nonneg num den)).trans_lt (rounded_lt hden hfinite)

end Binary64

/-! ## Tenths

A tenth is a quotient of integers, rounded to floating point and cut off. Its sign is that of the
integer. -/

section Tenth

variable {m n a b : Int}

/-- The tenth of a negative is the negative of the tenth. -/
theorem tenth_neg (n : Int) : tenth (-n) = (tenth n).map fun t => -t := by
  rcases eq_or_ne n 0 with rfl | hn
  · rw [Int.neg_zero, tenth_eq_tdiv (by decide)]
    rfl
  · -- for zero both signs give zero; otherwise the sign is turned over
    have hsign : decide (-n < 0) = !decide (n < 0) := by
      rw [← decide_not, decide_eq_decide]
      omega
    have hnot := Binary64.toInt_ofRatio_not (n < 0) n.natAbs 10
    unfold tenth Binary64.ofQuotient
    rw [hsign, Int.natAbs_neg]
    rcases Binary64.ofRatio_cases n.natAbs 10 with h | h
    · rw [h, h]
      rfl
    · rw [h, h] at hnot ⊢
      exact hnot

/-- A tenth is the whole part of the rounded quotient. -/
theorem toInt_ofQuotient_of_tenth (h : tenth n = .ok a) :
    (Binary64.ofQuotient n 10).toInt = .ok a := by
  unfold tenth at h
  split at h
  · cases h
  · exact h

/-- Of two integers, the greater one has no smaller tenth. -/
theorem tenth_mono (h : tenth m = .ok a) (h' : tenth n = .ok b) (hle : m ≤ n) : a ≤ b := by
  -- with its sign, the quotient of the magnitudes is the integer over ten
  have hquotient : ∀ n : Int, ((if decide (n < 0) then -1 else 1) * (n.natAbs / (10 : Nat)) : ℚ)
      = n / 10 := fun n => by
    rw [Nat.cast_natAbs, Nat.cast_ofNat]
    rcases lt_or_ge n 0 with hneg | hpos
    · rw [if_pos (decide_eq_true hneg), abs_of_neg hneg, Int.cast_neg, neg_div, neg_one_mul, neg_neg]
    · rw [if_neg (by simpa using hpos), abs_of_nonneg hpos, one_mul]
  refine Binary64.toInt_ofRatio_mono (by decide) (by decide) ?_ (toInt_ofQuotient_of_tenth h)
    (toInt_ofQuotient_of_tenth h')
  rw [hquotient, hquotient]
  exact div_le_div_of_nonneg_right (by exact_mod_cast hle) (by norm_num)

/-- What is below infinity has a tenth. -/
theorem exists_tenth (h : (n.natAbs : ℚ) < 2 ^ (1024 : Int)) : ∃ a, tenth n = .ok a := by
  have hbelow : (n.natAbs / (10 : Nat) : ℚ) < 2 ^ (1023 : Int) := by
    rw [Nat.cast_ofNat, div_lt_iff₀ (by norm_num)]
    calc (n.natAbs : ℚ) < 2 ^ (1024 : Int) := h
      _ = 2 ^ (1023 : Int) * 2 := by rw [← zpow_add_one₀ two_ne_zero]; rfl
      _ ≤ 2 ^ (1023 : Int) * 10 := mul_le_mul_of_nonneg_left (by norm_num) (zpow_nonneg zero_le_two _)
  unfold tenth Binary64.ofQuotient
  rw [Binary64.ofRatio_eq_finite _ (by decide) hbelow]
  exact ⟨_, rfl⟩

end Tenth

/-! ## Twips

Every unit has a finite, positive number of twips, so the product with an amount is a fixed multiple of
the amount, and rounding it is all that happens. -/

namespace LengthUnit

/-- The product of a number and the twips of a unit is a fixed multiple of the number, rounded with the
sign of the number. -/
theorem exists_mul_eq (u : LengthUnit) : ∃ factor : ℚ, 0 ≤ factor ∧
    ∀ (m : Nat) (e : Int), ∃ num den : Nat, 0 < den ∧ (num / den : ℚ) = m * 2 ^ e * factor ∧
      ∀ negative, .finite negative m e * u.twips = Binary64.ofRatio negative num den := by
  -- each of the units is looked at
  have hfinite : ∃ n f, u.twips = .finite false n f := by
    cases u <;> exact ⟨_, _, rfl⟩
  obtain ⟨n, f, hu⟩ := hfinite
  refine ⟨n * 2 ^ f, mul_nonneg n.cast_nonneg (zpow_nonneg zero_le_two f), fun m e =>
    ⟨m * n * Binary64.power 2 (e + f), Binary64.power 2 (-(e + f)), Binary64.power_pos _,
      Binary64.mul_div_power m n e f, fun negative => ?_⟩⟩
  rw [hu]
  show Binary64.ofRatio (negative != false) _ _ = _
  rw [Bool.bne_false]

end LengthUnit

/-- At `v`, `w` and `-v` there are measures: the one of `w` is no less than the one of `v`, and the one of
`-v` is its negative. -/
def KeepsOrderAndSign (measure : Binary64 → Except LengthError Int) (v w : Binary64) : Prop :=
  ∃ s t : Int, measure v = .ok s ∧ measure w = .ok t ∧ s ≤ t ∧ measure (-v) = .ok (-s)

namespace Length

variable {u : LengthUnit} {v w : Binary64} {p q : ℚ} {s t : Int}

/-- This holds of infinite amounts and of what is no number as well: they have no twips. -/
theorem twips_neg (v : Binary64) (u : LengthUnit) :
    twips ⟨.real (-v), u⟩ = (twips ⟨.real v, u⟩).map fun t => -t := by
  show ((-v) * u.twips).toInt = (v * u.twips).toInt.map fun t => -t
  cases v with
  | finite negative m e =>
    obtain ⟨_, -, hround⟩ := u.exists_mul_eq
    obtain ⟨num, den, -, -, hmul⟩ := hround m e
    show (Binary64.finite (!negative) m e * u.twips).toInt = _
    rw [hmul, hmul]
    exact Binary64.toInt_ofRatio_not negative num den
  | infinite negative => cases u <;> rfl
  | nan => rfl

/-- In one unit, the greater amount has no fewer twips. -/
theorem twips_mono (hv : v.toRat? = some p) (hw : w.toRat? = some q) (hle : p ≤ q)
    (hs : twips ⟨.real v, u⟩ = .ok s) (ht : twips ⟨.real w, u⟩ = .ok t) : s ≤ t := by
  obtain ⟨factor, hfactor, hproduct⟩ := u.exists_mul_eq
  cases v with
  | infinite | nan => cases hv
  | finite negative m e =>
    cases w with
    | infinite | nan => cases hw
    | finite negative' m' e' =>
      obtain ⟨num, den, hden, hquotient, hmul⟩ := hproduct m e
      obtain ⟨num', den', hden', hquotient', hmul'⟩ := hproduct m' e'
      have hround : (Binary64.ofRatio negative num den).toInt = .ok s := by
        rw [← hmul]
        exact hs
      have hround' : (Binary64.ofRatio negative' num' den').toInt = .ok t := by
        rw [← hmul']
        exact ht
      refine Binary64.toInt_ofRatio_mono hden hden' ?_ hround hround'
      -- both quotients are the amounts times one factor
      have hp : ((if negative then -1 else 1) * (m * 2 ^ e) : ℚ) = p := Option.some.inj hv
      have hq : ((if negative' then -1 else 1) * (m' * 2 ^ e') : ℚ) = q := Option.some.inj hw
      rw [hquotient, hquotient', ← mul_assoc _ _ factor, hp, ← mul_assoc _ _ factor, hq]
      exact mul_le_mul_of_nonneg_right hle hfactor

/-- An amount whose product is finite has twips, and they stay below infinity. -/
theorem exists_twips (hfinite : (v * u.twips).toRat?.isSome) :
    ∃ s, twips ⟨.real v, u⟩ = .ok s ∧ (s.natAbs : ℚ) < 2 ^ (1024 : Int) := by
  show ∃ s, (v * u.twips).toInt = .ok s ∧ _
  -- a finite product has a whole part
  have hvalue : ∃ s, (v * u.twips).toInt = .ok s := by
    cases hproduct : v * u.twips with
    | finite => exact ⟨_, rfl⟩
    | infinite | nan =>
      rw [hproduct] at hfinite
      cases hfinite
  obtain ⟨s, hs⟩ := hvalue
  refine ⟨s, hs, ?_⟩
  cases v with
  | finite negative m e =>
    obtain ⟨_, -, hround⟩ := u.exists_mul_eq
    obtain ⟨num, den, hden, -, hmul⟩ := hround m e
    rw [hmul] at hs
    exact Binary64.natAbs_lt_of_toInt_ofRatio hden hs
  | infinite negative => cases u <;> cases hs
  | nan => cases hs

/-- Half points are a tenth of the twips. -/
theorem halfPoints_eq (h : twips ⟨.real v, u⟩ = .ok s) : halfPoints ⟨.real v, u⟩ = tenth s := by
  unfold halfPoints
  rw [h]
  rfl

/-! ## Measures

Both measures exist for the two amounts and for the negative of the first, and the lemmas above compare
them. -/

variable (hv : v.toRat? = some p) (hw : w.toRat? = some q) (hle : p ≤ q)
  (hfv : (v * u.twips).toRat?.isSome) (hfw : (w * u.twips).toRat?.isSome)

include hv hw hle hfv hfw

/-- Twips keep the order and the sign. -/
theorem keepsOrderAndSign_twips : KeepsOrderAndSign (fun x => twips ⟨.real x, u⟩) v w := by
  obtain ⟨s, hs, -⟩ := exists_twips hfv
  obtain ⟨t, ht, -⟩ := exists_twips hfw
  refine ⟨s, t, hs, ht, twips_mono hv hw hle hs ht, ?_⟩
  show twips ⟨.real (-v), u⟩ = _
  rw [twips_neg, hs]
  rfl

/-- And so do half points, after the second rounding. -/
theorem keepsOrderAndSign_halfPoints : KeepsOrderAndSign (fun x => halfPoints ⟨.real x, u⟩) v w := by
  obtain ⟨s, hs, hsize⟩ := exists_twips hfv
  obtain ⟨t, ht, hsize'⟩ := exists_twips hfw
  obtain ⟨a, ha⟩ := exists_tenth hsize
  obtain ⟨b, hb⟩ := exists_tenth hsize'
  have hneg : twips ⟨.real (-v), u⟩ = .ok (-s) := by
    rw [twips_neg, hs]
    rfl
  refine ⟨a, b, (halfPoints_eq hs).trans ha, (halfPoints_eq ht).trans hb,
    tenth_mono ha hb (twips_mono hv hw hle hs ht), ?_⟩
  show halfPoints ⟨.real (-v), u⟩ = _
  rw [halfPoints_eq hneg, tenth_neg, ha]
  rfl

end Length

/-- The width of a border line is measured as half-points are. -/
theorem MeasuredBorderSide.map_width_measure (s : MeasuredBorderSide) :
    s.measure.map (·.width) = s.width.halfPoints := by
  unfold measure Length.halfPoints
  cases s.width.twips with
  | error e => rfl
  | ok t =>
    show Except.map _ (do
      let width ← tenth t
      return ({ width, color := s.color, style := s.style } : BorderSide)) = tenth t
    cases tenth t <;> rfl

/-- Of two finite amounts in one unit whose products are finite, the greater one measures no less in
twips, in half-points and as the width of a border line, and a change of the sign is a change of the
sign of the measure. Up to 53 bits, rounding the quotient by ten does not change its whole part. -/
theorem measures_keepOrderAndSign {v w : Binary64} {p q : ℚ} (u : LengthUnit) (color : Text)
    (style : BorderStyle) (hv : v.toRat? = some p) (hw : w.toRat? = some q) (hle : p ≤ q)
    (hfv : (v * u.twips).toRat?.isSome) (hfw : (w * u.twips).toRat?.isSome) :
    KeepsOrderAndSign (fun x => Length.twips ⟨.real x, u⟩) v w ∧
      KeepsOrderAndSign (fun x => Length.halfPoints ⟨.real x, u⟩) v w ∧
      KeepsOrderAndSign (fun x =>
        (MeasuredBorderSide.measure ⟨⟨.real x, u⟩, color, style⟩).map (·.width)) v w ∧
      ∀ n : Int, n.natAbs ≤ 2 ^ 53 → tenth n = .ok (n.tdiv 10) := by
  refine ⟨Length.keepsOrderAndSign_twips hv hw hle hfv hfw,
    Length.keepsOrderAndSign_halfPoints hv hw hle hfv hfw, ?_, fun n => tenth_eq_tdiv⟩
  simp only [MeasuredBorderSide.map_width_measure]
  exact Length.keepsOrderAndSign_halfPoints hv hw hle hfv hfw

/-- Two neighbouring numbers of points: the product with the greater one, a little less than seven, is
rounded to seven before the fraction is dropped. -/
theorem measures_keepOrderAndSign_neighbours :
    let v : Binary64 := .finite false 6305039478318693 (-54)
    let w : Binary64 := .finite false 6305039478318694 (-54)
    (v.toRat? = some (6305039478318693 * 2 ^ (-54 : Int)) ∧
      w.toRat? = some (6305039478318694 * 2 ^ (-54 : Int)) ∧
      (v * LengthUnit.point.twips).toRat?.isSome ∧ (w * LengthUnit.point.twips).toRat?.isSome) ∧
      Length.twips ⟨.real v, .point⟩ = .ok 6 ∧ Length.twips ⟨.real w, .point⟩ = .ok 7 ∧
      KeepsOrderAndSign (fun x => Length.twips ⟨.real x, .point⟩) v w ∧
      KeepsOrderAndSign (fun x => Length.halfPoints ⟨.real x, .point⟩) v w ∧
      KeepsOrderAndSign (fun x =>
        (MeasuredBorderSide.measure ⟨⟨.real x, .point⟩, "000000", .single⟩).map (·.width)) v w ∧
      tenth (-9007199254740992) = .ok (-900719925474099) := by
  intro v w
  have hv : v.toRat? = some (6305039478318693 * 2 ^ (-54 : Int)) := by simp [v, Binary64.toRat?]
  have hw : w.toRat? = some (6305039478318694 * 2 ^ (-54 : Int)) := by simp [w, Binary64.toRat?]
  have hfv : (v * LengthUnit.point.twips).toRat?.isSome := rfl
  have hfw : (w * LengthUnit.point.twips).toRat?.isSome := rfl
  -- the two mantissas are neighbours
  have hle : (6305039478318693 * 2 ^ (-54 : Int) : ℚ) ≤ 6305039478318694 * 2 ^ (-54 : Int) := by
    norm_num
  obtain ⟨htwips, hhalf, hwidth, htenth⟩ :=
    measures_keepOrderAndSign .point "000000" .single hv hw hle hfv hfw
  exact ⟨⟨hv, hw, hfv, hfw⟩, by decide +kernel, by decide +kernel, htwips, hhalf, hwidth,
    htenth _ (by decide)⟩

end Wordsmith
