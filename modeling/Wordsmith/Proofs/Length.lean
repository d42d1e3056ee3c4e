import Wordsmith.Length
import Wordsmith.Proofs.Number.Rounding

/-!
# Lengths in twips

A length that is given in twips is a whole number of them already. The multiplication by one and the
division by ten are carried out in floating point, and up to 53 bits neither does any harm: the length
is its number of twips (`Length.twips_of_isTwips`), and a tenth of it is the exact quotient without its
fraction (`tenth_eq_tdiv`).

* `Binary64.toInt_ofRatio`: truncating a rounded quotient gives the whole part of the exact one.
* `Binary64.toInt_mul_twips`: multiplying by one is exact.
* `tenth_eq_tdiv`: the quotient by ten, rounded and truncated, is the quotient towards zero.
-/

namespace Wordsmith

namespace Binary64

/-- A rounded quotient has the whole part of the exact one. -/
theorem toInt_ofRatio {num den j : Nat} (negative : Bool) (hj : j ≤ 53) (hden : 0 < den)
    (h : num < 2 ^ (53 - j) * den) (hfine : den ∣ num ∨ den < 2 ^ (j + 1)) :
    (ofRatio negative num den).toInt
      = .ok (if negative then -((num / den : Nat) : Int) else (num / den : Nat)) := by
  obtain ⟨k, hjk, hk⟩ := exists_ofRatio_eq negative hj hden h
  have hbits : den ∣ num ∨ den < 2 ^ (k + 1) :=
    hfine.imp_right fun hlt => hlt.trans_le (Nat.pow_le_pow_right (by decide) (by omega))
  -- rounding to the nearest with enough bits cannot step over an integer
  rw [hk, toInt, wholePart_nearestAt hden hbits]

/-- A whole number of twips in floating point, times one. -/
theorem toInt_mul_twips {x : Binary64} {t : Int} (hx : x.toRat? = some (t : ℚ))
    (ht : t.natAbs < 2 ^ 53) : (x * LengthUnit.twip.twips).toInt = .ok t := by
  obtain ⟨negative, m, e, rfl, hvalue, hsign⟩ := eq_finite_of_toRat? hx
  have hone : LengthUnit.twip.twips = .finite false (2 ^ 52) (-52) := by decide +kernel
  have hden : 0 < power 2 (-(e + -52)) := power_pos _
  -- the product of the mantissas stands for the integer itself, brought to the common exponent
  have hproduct : m * 2 ^ 52 * power 2 (e + -52) = t.natAbs * power 2 (-(e + -52)) := by
    have h := mul_div_power m (2 ^ 52) e (-52)
    rw [hvalue, div_eq_iff (by exact_mod_cast hden.ne'), Nat.cast_pow, Nat.cast_ofNat,
      show (2 : ℚ) ^ 52 * 2 ^ (-52 : Int) = 1 by norm_num, mul_one] at h
    exact_mod_cast h
  have hmul : Binary64.finite negative m e * .finite false (2 ^ 52) (-52)
      = ofRatio negative (t.natAbs * power 2 (-(e + -52))) (power 2 (-(e + -52))) := by
    rw [← hproduct]
    show ofRatio (negative != false) _ _ = _
    rw [Bool.bne_false]
  -- the rounded quotient is exact, since the denominator divides the numerator
  rw [hone, hmul, toInt_ofRatio negative (Nat.zero_le 53) hden
    (Nat.mul_lt_mul_of_pos_right ht hden) (.inl (Nat.dvd_mul_left _ _)),
    Nat.mul_div_cancel _ hden, ← hsign]

end Binary64

/-- A tenth without its fraction is not spoiled by rounding the quotient first. -/
theorem tenth_eq_tdiv {n : Int} (hn : n.natAbs ≤ 2 ^ 53) : tenth n = .ok (n.tdiv 10) := by
  have hsize : n.natAbs < 2 ^ (53 - 3) * 10 := by omega
  obtain ⟨k, -, hk⟩ :=
    Binary64.exists_ofRatio_eq (n < 0) (by decide : 3 ≤ 53) (by decide : 0 < 10) hsize
  -- three bits are lost to the divisor ten, which lies below `2 ^ 4`
  have hwhole := Binary64.toInt_ofRatio (n < 0) (by decide : 3 ≤ 53) (by decide) hsize
    (.inr (by decide))
  unfold tenth Binary64.ofQuotient
  rw [hk] at hwhole ⊢
  refine hwhole.trans (congrArg Except.ok ?_)
  -- the sign is split off before the division
  obtain ⟨m, rfl | rfl⟩ := n.eq_nat_or_neg
  · rw [if_neg (by simp), Int.natAbs_natCast]
    rfl
  · rw [Int.natAbs_neg, Int.natAbs_natCast, Int.neg_tdiv]
    rcases m.eq_zero_or_pos with rfl | hm
    · rfl
    · rw [if_pos (by simpa using hm)]
      rfl

/-- The amount is this integer, given as such or in floating point. -/
def Amount.IsWhole (a : Amount) (t : Int) : Prop :=
  match a with
  | .whole n => n = t
  | .real x => x.toRat? = some (t : ℚ)

namespace Length

/-- The length is given in twips, as an integer of at most 53 bits. -/
structure IsTwips (l : Length) (t : Int) : Prop where
  unit : l.unit = .twip
  amount : l.amount.IsWhole t
  natAbs_lt : t.natAbs < 2 ^ 53

variable {l : Length} {t : Int}

/-- A length in twips is its number of twips, whether the amount is an integer or a float. -/
theorem twips_of_isTwips (h : l.IsTwips t) : l.twips = .ok t := by
  obtain ⟨amount, unit⟩ := l
  obtain ⟨rfl, hamount, ht⟩ := h
  -- either way the factor one is applied to a float that stands for the integer
  have hfloat : ∃ x, amount.toBinary64 = .ok x ∧ x.toRat? = some (t : ℚ) := by
    cases amount with
    | whole n =>
      cases hamount
      have hx := Binary64.toRat?_ofInt ht
      obtain ⟨negative, m, e, heq, -⟩ := Binary64.eq_finite_of_toRat? hx
      exact ⟨_, by simp only [Amount.toBinary64, heq], hx⟩
    | real x => exact ⟨x, rfl, hamount⟩
  obtain ⟨x, hx, hvalue⟩ := hfloat
  unfold twips
  rw [hx]
  exact Binary64.toInt_mul_twips hvalue ht

/-- In half points it is a tenth of them, with the fraction cut off towards zero. -/
theorem halfPoints_of_isTwips (h : l.IsTwips t) : l.halfPoints = .ok (t.tdiv 10) := by
  unfold halfPoints
  rw [twips_of_isTwips h]
  exact tenth_eq_tdiv h.natAbs_lt.le

end Length

end Wordsmith
