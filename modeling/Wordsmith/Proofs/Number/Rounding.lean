import Mathlib.Data.Int.Log
import Mathlib.Data.Rat.Floor
import Mathlib.Tactic.FieldSimp
import Mathlib.Tactic.Linarith
import Mathlib.Tactic.NormNum
import Mathlib.Tactic.Positivity
import Mathlib.Tactic.Ring
import Wordsmith.Number.Binary64

/-!
# Rounding to floating point

A quotient is rounded on the grid of the numbers that have its exponent, and this exponent depends on
the quotient alone (`exponentOf_eq`). Two things follow for the whole part of a rounded quotient: a
quotient without a fraction stays as it is if it is short enough, and one whose fraction cannot come
near the next integer keeps its whole part (`wholePart_nearestAt`).

The grid of an exponent is given by integers alone: a quotient is scaled by a power of two above or
below (`power`), and the nearest integer is taken (`nearest`). The statements about real size are in
rational numbers, where `2 ^ e` is a power with an integer exponent.
-/

namespace Wordsmith.Binary64

/-! ## Powers of two

`power 2 e` is the power if the exponent is not negative and one otherwise, so a power with either sign
is `power 2 e / power 2 (-e)`. -/

theorem power_pos (e : Int) : 0 < power 2 e := Nat.pow_pos (by decide)

theorem power_natCast (k : Nat) : power 2 (k : Int) = 2 ^ k := rfl

/-- Negative exponents are cut off. -/
theorem power_neg_natCast (k : Nat) : power 2 (-(k : Int)) = 1 := by
  unfold power
  rw [Int.toNat_neg_natCast]

/-- The two halves make up the power in rational numbers. -/
theorem power_div_power (e : Int) : (power 2 e : ℚ) / power 2 (-e) = 2 ^ e := by
  obtain ⟨k, rfl | rfl⟩ := e.eq_nat_or_neg
  · rw [power_natCast, power_neg_natCast, Nat.cast_one, div_one, Nat.cast_pow, zpow_natCast,
      Nat.cast_ofNat]
  · rw [neg_neg, power_natCast, power_neg_natCast, Nat.cast_one, Nat.cast_pow, zpow_neg,
      zpow_natCast, one_div, Nat.cast_ofNat]

/-! ## The exponent of a quotient

The exponent is guessed from the lengths of numerator and denominator, and the guess is one too high at
most. Whether it is, a comparison tells, so the exponent comes out as the logarithm of the quotient,
minus the 52 bits of the fraction, and no lower than the least exponent there is. -/

section Exponent

variable {num den : Nat}

/-- The comparison of scaled integers compares the quotient with a power of two. -/
theorem lt_power_iff (hden : 0 < den) (e : Int) :
    num * power 2 (-e) < den * power 2 e ↔ (num / den : ℚ) < 2 ^ e := by
  have hd : (0 : ℚ) < den := by exact_mod_cast hden
  have hp : (0 : ℚ) < power 2 (-e) := by exact_mod_cast power_pos (-e)
  rw [← power_div_power, div_lt_div_iff₀ hd hp, mul_comm (power 2 e : ℚ)]
  exact_mod_cast Iff.rfl

/-- The exponent of a quotient is read off the power of two just below it. -/
theorem exponentOf_eq (hnum : 0 < num) (hden : 0 < den) :
    exponentOf num den = max (Int.log 2 (num / den : ℚ) - 52) minExponent := by
  have hd : (0 : ℚ) < den := by exact_mod_cast hden
  have hq : (0 : ℚ) < num / den := div_pos (by exact_mod_cast hnum) hd
  -- the quotient lies within a factor of two around the guess
  have hbelow : (2 : ℚ) ^ ((num.log2 : Int) - den.log2 - 1) ≤ num / den := by
    have hn : (2 : ℚ) ^ num.log2 ≤ num := by exact_mod_cast Nat.log2_self_le hnum.ne'
    have hd' : (den : ℚ) ≤ 2 ^ (den.log2 + 1) := by exact_mod_cast Nat.lt_log2_self.le
    rw [sub_sub, zpow_sub₀ (by norm_num), zpow_natCast,
      show ((den.log2 : Int) + 1) = ((den.log2 + 1 : Nat) : Int) from rfl, zpow_natCast]
    exact div_le_div₀ (by positivity) hn hd hd'
  have habove : (num / den : ℚ) < 2 ^ ((num.log2 : Int) - den.log2 + 1) := by
    have hn : (num : ℚ) < 2 ^ (num.log2 + 1) := by exact_mod_cast Nat.lt_log2_self
    have hd' : (2 : ℚ) ^ den.log2 ≤ den := by exact_mod_cast Nat.log2_self_le hden.ne'
    rw [sub_add_eq_add_sub, zpow_sub₀ (by norm_num), zpow_natCast,
      show ((num.log2 : Int) + 1) = ((num.log2 + 1 : Nat) : Int) from rfl, zpow_natCast]
    exact div_lt_div₀ hn hd' (by positivity) (by positivity)
  have hlt : ∀ e : Int, Int.log 2 (num / den : ℚ) < e ↔ (num / den : ℚ) < 2 ^ e := fun e => by
    rw [← Int.lt_zpow_iff_log_lt (by decide) hq, Nat.cast_ofNat]
  -- so the guess, corrected by the comparison, is the logarithm
  have hlog : (if num * power 2 (-((num.log2 : Int) - den.log2))
        < den * power 2 ((num.log2 : Int) - den.log2)
      then (num.log2 : Int) - den.log2 - 1 else (num.log2 : Int) - den.log2)
        = Int.log 2 (num / den : ℚ) := by
    have h := (hlt _).mpr habove
    have h' := (not_congr (hlt _)).mpr (not_lt.mpr hbelow)
    split
    · rename_i hguess
      rw [lt_power_iff hden, ← hlt] at hguess
      omega
    · rename_i hguess
      rw [lt_power_iff hden, ← hlt] at hguess
      omega
  unfold exponentOf
  rw [← hlog]

/-- A quotient below a power of two has an exponent that leaves room for fractions. -/
theorem exponentOf_le {j : Nat} (hj : j ≤ 53) (hden : 0 < den) (h : num < 2 ^ (53 - j) * den) :
    exponentOf num den ≤ -j := by
  have hmin : minExponent ≤ -j := by
    unfold minExponent
    omega
  rcases num.eq_zero_or_pos with rfl | hnum
  · -- the exponent of zero is as small as the denominator asks for
    have hguess : 0 * power 2 (-((Nat.log2 0 : Int) - den.log2))
        < den * power 2 ((Nat.log2 0 : Int) - den.log2) := by
      rw [Nat.zero_mul]
      exact Nat.mul_pos hden (power_pos _)
    unfold exponentOf
    simp only [if_pos hguess]
    have hlog : Nat.log2 0 = 0 := rfl
    omega
  · have hq : (0 : ℚ) < num / den := by positivity
    -- the quotient is below the power of two, and so is its logarithm
    have hlog : Int.log 2 (num / den : ℚ) < ((53 - j : Nat) : Int) := by
      rw [← Int.lt_zpow_iff_log_lt (by decide) hq, zpow_natCast, div_lt_iff₀ (by positivity)]
      exact_mod_cast h
    rw [exponentOf_eq hnum hden]
    omega

end Exponent

/-! ## The nearest integer

`nearest num den` is the whole part of the quotient or the integer above it, whichever is nearer; in
the middle the even one is taken. For the whole part of a rounded quotient only this matters: it is not
below the quotient, not above the next integer, and below the middle it is not rounded up. -/

section Nearest

variable {num den : Nat}

/-- Rounding never goes below the whole part. -/
theorem div_le_nearest : num / den ≤ nearest num den := by
  unfold nearest
  dsimp only
  split
  · exact le_rfl
  split
  · exact Nat.le_succ _
  split
  · exact le_rfl
  · exact Nat.le_succ _

/-- A whole number is its own nearest integer. -/
theorem nearest_mul (n : Nat) (hden : 0 < den) : nearest (n * den) den = n := by
  unfold nearest
  rw [Nat.mul_mod_left, Nat.mul_div_cancel n hden]
  exact if_pos hden

/-- Rounding never goes beyond the next integer. -/
theorem nearest_le_succ : nearest num den ≤ num / den + 1 := by
  unfold nearest
  dsimp only
  split
  · exact Nat.le_succ _
  split
  · exact le_rfl
  split
  · exact Nat.le_succ _
  · exact le_rfl

/-- What lies below the middle between an integer and the next is not rounded up to the next. -/
theorem nearest_le {k : Nat} (h : 2 * num < (2 * k + 1) * den) : nearest num den ≤ k := by
  rw [Nat.add_mul, Nat.mul_assoc, Nat.one_mul] at h
  have hquotient : num / den ≤ k := by
    refine Nat.le_of_lt_succ (Nat.div_lt_of_lt_mul ?_)
    rw [Nat.mul_succ, Nat.mul_comm]
    omega
  rcases hquotient.lt_or_eq with hlt | heq
  · exact nearest_le_succ.trans hlt
  · -- the rest is less than half of the denominator
    have hsplit := Nat.div_add_mod num den
    rw [heq, Nat.mul_comm] at hsplit
    unfold nearest
    dsimp only
    rw [if_pos (by omega)]
    exact hquotient

/-- Rounding at an exponent that leaves room for fractions keeps the whole part, if the fraction is
missing or too far from one for the bits that it is given. -/
theorem wholePart_nearestAt {k : Nat} (hden : 0 < den) (h : den ∣ num ∨ den < 2 ^ (k + 1)) :
    wholePart (nearestAt (-(k : Int)) num den) (-(k : Int)) = num / den := by
  -- at the exponent `-k` the grid has steps of `2 ^ -k`
  have hnearest : nearestAt (-(k : Int)) num den = nearest (num * 2 ^ k) den := by
    unfold nearestAt
    rw [neg_neg, power_natCast, power_neg_natCast, Nat.mul_one]
  have hwhole : ∀ m, wholePart m (-(k : Int)) = m / 2 ^ k := fun m => by
    unfold wholePart
    rw [neg_neg, power_natCast, power_neg_natCast, Nat.mul_one]
  rw [hwhole, hnearest]
  -- without a fraction the quotient lies on the grid; with one it keeps clear of the next integer
  rcases h with ⟨q, rfl⟩ | hfine
  · rw [Nat.mul_div_cancel_left q hden, Nat.mul_assoc, Nat.mul_comm den, nearest_mul _ hden]
    exact Nat.mul_div_cancel q (by positivity)
  · have hbits : 0 < 2 ^ k := by positivity
    refine Nat.div_eq_of_lt_le ?_ ?_
    · -- what is rounded is no less than the whole part, and so is the nearest integer
      refine le_trans ?_ div_le_nearest
      rw [Nat.le_div_iff_mul_le hden, Nat.mul_right_comm]
      exact Nat.mul_le_mul_right _ (Nat.div_mul_le_self num den)
    · -- the next whole number is at least half a step above what is rounded
      obtain ⟨m, hm⟩ : ∃ m, (num / den + 1) * 2 ^ k = m + 1 :=
        Nat.exists_eq_succ_of_ne_zero (by positivity)
      have hnext : num + 1 ≤ (num / den + 1) * den :=
        (Nat.div_lt_iff_lt_mul hden).mp (Nat.lt_succ_self _)
      have hscaled : (num + 1) * 2 ^ k ≤ (m + 1) * den := by
        rw [← hm, Nat.mul_right_comm]
        exact Nat.mul_le_mul_right _ hnext
      rw [hm, Nat.lt_succ_iff]
      refine nearest_le ?_
      rw [Nat.add_mul, Nat.add_mul, Nat.one_mul, Nat.one_mul] at hscaled
      rw [Nat.pow_succ] at hfine
      rw [Nat.add_mul, Nat.one_mul, Nat.mul_assoc 2 m]
      omega

end Nearest

/-! ## Rounded quotients

A floating point number is a sign, a mantissa and an exponent. While a quotient is below `2 ^ (53 - j)`
the grid has at least `j` bits behind the point, and the result is finite. -/

/-- The number that a finite floating point number stands for. -/
def toRat? : Binary64 → Option ℚ
  | .finite negative m e => some ((if negative then -1 else 1) * (m * 2 ^ e))
  | _ => none

/-- A quotient below a power of two is rounded at an exponent that leaves room for fractions. -/
theorem exists_ofRatio_eq {num den j : Nat} (negative : Bool) (hj : j ≤ 53) (hden : 0 < den)
    (h : num < 2 ^ (53 - j) * den) : ∃ k : Nat, j ≤ k ∧
      ofRatio negative num den = .finite negative (nearestAt (-(k : Int)) num den) (-(k : Int)) := by
  have hexponent := exponentOf_le hj hden h
  obtain ⟨k, hk⟩ : ∃ k : Nat, exponentOf num den = -(k : Int) :=
    ⟨(-exponentOf num den).toNat, by omega⟩
  -- the greatest exponent is far away, so nothing is rounded to infinity
  have hmax : ¬ (maxExponent < -(k : Int) ∨
      -(k : Int) = maxExponent ∧ nearestAt (-(k : Int)) num den = power 2 53) := by
    unfold maxExponent
    omega
  refine ⟨k, by omega, ?_⟩
  unfold ofRatio
  rw [hk]
  simpa using hmax

/-- An integer of at most 53 bits is a floating point number. -/
theorem toRat?_ofInt {t : Int} (ht : t.natAbs < 2 ^ 53) : (ofInt t).toRat? = some (t : ℚ) := by
  obtain ⟨k, -, hk⟩ := exists_ofRatio_eq (t < 0) (Nat.zero_le 53) Nat.one_pos
    (by rwa [Nat.mul_one, Nat.sub_zero])
  -- an integer lies on the grid
  have hnearest : nearestAt (-(k : Int)) t.natAbs 1 = t.natAbs * 2 ^ k := by
    unfold nearestAt
    rw [neg_neg, power_natCast, power_neg_natCast]
    exact (congrArg (nearest · 1) (Nat.mul_one _).symm).trans (nearest_mul _ Nat.one_pos)
  unfold ofInt
  rw [hk, toRat?, hnearest, Nat.cast_mul, Nat.cast_pow, Nat.cast_ofNat, zpow_neg, zpow_natCast,
    mul_assoc, mul_inv_cancel₀ (by positivity), mul_one, Nat.cast_natAbs]
  rcases lt_or_ge t 0 with hneg | hpos
  · rw [if_pos (decide_eq_true hneg), abs_of_neg hneg, Int.cast_neg, neg_one_mul, neg_neg]
  · rw [if_neg (by simpa using hpos), abs_of_nonneg hpos, one_mul]

/-- A floating point number that stands for an integer has the sign of this integer. -/
theorem eq_finite_of_toRat? {x : Binary64} {t : Int} (h : x.toRat? = some (t : ℚ)) :
    ∃ negative m e, x = .finite negative m e ∧ (m * 2 ^ e : ℚ) = t.natAbs ∧
      t = if negative then -(t.natAbs : Int) else t.natAbs := by
  cases x with
  | infinite | nan => cases h
  | finite negative m e =>
    have hpos : (0 : ℚ) ≤ m * 2 ^ e := mul_nonneg m.cast_nonneg (zpow_nonneg zero_le_two e)
    have hvalue : (if negative then -1 else 1) * (m * 2 ^ e : ℚ) = t := Option.some.inj h
    refine ⟨negative, m, e, rfl, ?_⟩
    -- the magnitude is not negative, so the sign bit is the sign of the integer, or either one for
    -- zero
    cases negative with
    | true =>
      have htrue : (m * 2 ^ e : ℚ) = -t := by
        rw [← hvalue, if_pos rfl, neg_one_mul, neg_neg]
      have hneg : t ≤ 0 := by
        rw [htrue, ← Int.cast_neg, Int.cast_nonneg_iff] at hpos
        omega
      refine ⟨?_, by rw [if_pos rfl]; omega⟩
      rw [htrue, Nat.cast_natAbs, abs_of_nonpos hneg, Int.cast_neg]
    | false =>
      have hfalse : (m * 2 ^ e : ℚ) = t := by
        rw [← hvalue, if_neg Bool.false_ne_true, one_mul]
      have hnonneg : 0 ≤ t := by
        rwa [hfalse, Int.cast_nonneg_iff] at hpos
      refine ⟨?_, by rw [if_neg Bool.false_ne_true]; omega⟩
      rw [hfalse, Nat.cast_natAbs, abs_of_nonneg hnonneg]

/-- The exact product of two finite numbers, as the quotient that is rounded. -/
theorem mul_div_power (m n : Nat) (e f : Int) :
    ((m * n * power 2 (e + f) : Nat) : ℚ) / power 2 (-(e + f)) = (m * 2 ^ e) * (n * 2 ^ f) := by
  rw [Nat.cast_mul, mul_div_assoc, power_div_power, zpow_add₀ (by norm_num), Nat.cast_mul]
  ring

end Wordsmith.Binary64
