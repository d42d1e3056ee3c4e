import Mathlib.Algebra.Order.Floor.Semifield
import Wordsmith.Proofs.Number.Rounding

/-!
# Rounding keeps the order

Of two quotients, the greater one is rounded to no less (`rounded_mono`). While both have one exponent
they are rounded on one grid, and there the nearest integer decides (`nearest_mono`). A quotient with a
smaller exponent is rounded to a number up to the power of two that ends its binade, and one with a
greater exponent to that power at least. The fraction is dropped after that, which keeps the order as
well, so the whole parts of rounded quotients are in order (`roundedWhole_mono`).

* `rounded_lt` — what is rounded to a finite number is rounded to below `2 ^ 1024`.
* `ofRatio_eq_finite` — a quotient below `2 ^ 1023` is rounded to a finite number.
-/

namespace Wordsmith.Binary64

variable {num den num' den' : Nat}

/-! ## The nearest integer

Of two quotients with the same whole part, the fractions decide. The middle is treated by parity, which
is the same for both. -/

/-- The greater quotient has no smaller nearest integer. -/
theorem nearest_mono (hden : 0 < den) (hden' : 0 < den') (h : num * den' ≤ num' * den) :
    nearest num den ≤ nearest num' den' := by
  have hquotient : num / den ≤ num' / den' := by
    rw [Nat.le_div_iff_mul_le hden']
    refine Nat.le_of_mul_le_mul_right ?_ hden
    calc num / den * den' * den = num / den * den * den' := Nat.mul_right_comm _ _ _
      _ ≤ num * den' := Nat.mul_le_mul_right _ (Nat.div_mul_le_self num den)
      _ ≤ num' * den := h
  rcases hquotient.lt_or_eq with hlt | heq
  · exact nearest_le_succ.trans ((Nat.succ_le_of_lt hlt).trans div_le_nearest)
  · -- between the same integers, the greater fraction is rounded up if the smaller one is
    have hsplit := Nat.div_add_mod num den
    have hsplit' := Nat.div_add_mod num' den'
    have hrest : num % den * den' ≤ num' % den' * den := by
      rw [← hsplit, ← hsplit', heq] at h
      linarith
    -- if the smaller fraction reaches the middle, the greater one does, and likewise beyond it
    have hhalf : den ≤ 2 * (num % den) → den' ≤ 2 * (num' % den') := fun hle => by
      refine Nat.le_of_mul_le_mul_left (c := den) ?_ hden
      calc den * den' ≤ 2 * (num % den) * den' := Nat.mul_le_mul_right _ hle
        _ ≤ den * (2 * (num' % den')) := by linarith
    have habove : den < 2 * (num % den) → den' < 2 * (num' % den') := fun hlt => by
      refine Nat.lt_of_mul_lt_mul_left (a := den) ?_
      calc den * den' < 2 * (num % den) * den' := Nat.mul_lt_mul_of_pos_right hlt hden'
        _ ≤ den * (2 * (num' % den')) := by linarith
    unfold nearest
    dsimp only
    rw [heq]
    split_ifs <;> omega

/-! ## Rounding on one grid

At a fixed exponent the mantissa is the nearest integer to the scaled quotient. Bounds for the quotient
by a point of the grid are bounds for the mantissa. -/

/-- The scaled comparison with a point of the grid, from below. -/
theorem mul_power_le_iff (hden : 0 < den) (e : Int) (k : Nat) :
    k * (den * power 2 e) ≤ num * power 2 (-e) ↔ (k * 2 ^ e : ℚ) ≤ num / den := by
  have hd : (0 : ℚ) < den := by exact_mod_cast hden
  have hp : (0 : ℚ) < power 2 (-e) := by exact_mod_cast power_pos (-e)
  rw [← power_div_power, mul_div_assoc', div_le_div_iff₀ hp hd, mul_right_comm, mul_assoc]
  exact_mod_cast Iff.rfl

/-- And from above. -/
theorem le_mul_power_iff (hden : 0 < den) (e : Int) (k : Nat) :
    num * power 2 (-e) ≤ k * (den * power 2 e) ↔ (num / den : ℚ) ≤ k * 2 ^ e := by
  have hd : (0 : ℚ) < den := by exact_mod_cast hden
  have hp : (0 : ℚ) < power 2 (-e) := by exact_mod_cast power_pos (-e)
  rw [← power_div_power, mul_div_assoc', div_le_div_iff₀ hd hp, mul_right_comm, mul_assoc]
  exact_mod_cast Iff.rfl

/-- On one grid the greater quotient has no smaller mantissa. -/
theorem nearestAt_mono (hden : 0 < den) (hden' : 0 < den') (e : Int)
    (h : (num / den : ℚ) ≤ num' / den') : nearestAt e num den ≤ nearestAt e num' den' := by
  have hd : (0 : ℚ) < den := by exact_mod_cast hden
  have hd' : (0 : ℚ) < den' := by exact_mod_cast hden'
  have hcross : num * den' ≤ num' * den := by
    rw [div_le_div_iff₀ hd hd'] at h
    exact_mod_cast h
  unfold nearestAt
  refine nearest_mono (Nat.mul_pos hden (power_pos e)) (Nat.mul_pos hden' (power_pos e)) ?_
  calc num * power 2 (-e) * (den' * power 2 e)
      = num * den' * (power 2 (-e) * power 2 e) := by ring
    _ ≤ num' * den * (power 2 (-e) * power 2 e) := Nat.mul_le_mul_right _ hcross
    _ = num' * power 2 (-e) * (den * power 2 e) := by ring

/-- A point of the grid below the quotient is below its mantissa. -/
theorem le_nearestAt (hden : 0 < den) {e : Int} {k : Nat} (h : (k * 2 ^ e : ℚ) ≤ num / den) :
    k ≤ nearestAt e num den := by
  refine le_trans ?_ div_le_nearest
  rw [Nat.le_div_iff_mul_le (Nat.mul_pos hden (power_pos e))]
  exact (mul_power_le_iff hden e k).mpr h

/-- A point of the grid above the quotient is above its mantissa. -/
theorem nearestAt_le (hden : 0 < den) {e : Int} {k : Nat} (h : (num / den : ℚ) ≤ k * 2 ^ e) :
    nearestAt e num den ≤ k := by
  have hpos := Nat.mul_pos hden (power_pos e)
  calc nearest (num * power 2 (-e)) (den * power 2 e)
      ≤ nearest (k * (den * power 2 e)) (den * power 2 e) :=
        nearest_mono hpos hpos (Nat.mul_le_mul_right _ ((le_mul_power_iff hden e k).mpr h))
    _ = k := nearest_mul k hpos

/-! ## The exponents of two quotients

The exponent grows with the quotient. It is chosen so that the mantissa has 53 bits, or fewer at the
least exponent. -/

/-- The mantissa has room for the quotient. -/
theorem lt_two_zpow_exponentOf (hden : 0 < den) :
    (num / den : ℚ) < 2 ^ (exponentOf num den + 53) := by
  rcases num.eq_zero_or_pos with rfl | hnum
  · rw [Nat.cast_zero, zero_div]
    exact zpow_pos two_pos _
  · -- the logarithm is at most 52 above the exponent
    have hbelow : Int.log 2 (num / den : ℚ) + 1 ≤ exponentOf num den + 53 := by
      rw [exponentOf_eq hnum hden]
      omega
    calc (num / den : ℚ) < (2 : Nat) ^ (Int.log 2 (num / den : ℚ) + 1) :=
          Int.lt_zpow_succ_log_self (by decide) _
      _ ≤ 2 ^ (exponentOf num den + 53) := zpow_le_zpow_right₀ one_le_two hbelow

/-- The mantissa has all its bits, unless the exponent is the least one. -/
theorem two_zpow_exponentOf_le (hnum : 0 < num) (hden : 0 < den)
    (h : minExponent < exponentOf num den) :
    (2 : ℚ) ^ (exponentOf num den + 52) ≤ num / den := by
  have hq : (0 : ℚ) < num / den := by positivity
  have hexact : exponentOf num den + 52 = Int.log 2 (num / den : ℚ) := by
    rw [exponentOf_eq hnum hden] at h ⊢
    omega
  rw [hexact]
  exact Int.zpow_log_le_self (by decide) hq

/-- What is no less than a positive quotient is positive. -/
theorem num_pos_of_le (hnum : 0 < num) (hden : 0 < den) (h : (num / den : ℚ) ≤ num' / den') :
    0 < num' := by
  have hq : (0 : ℚ) < num / den := by positivity
  rw [Nat.pos_iff_ne_zero]
  rintro rfl
  rw [Nat.cast_zero, zero_div] at h
  exact absurd hq h.not_gt

/-- The greater quotient has no smaller exponent. -/
theorem exponentOf_mono (hnum : 0 < num) (hden : 0 < den) (hden' : 0 < den')
    (h : (num / den : ℚ) ≤ num' / den') : exponentOf num den ≤ exponentOf num' den' := by
  have hq : (0 : ℚ) < num / den := by positivity
  have hlog := Int.log_mono_right (b := 2) hq h
  rw [exponentOf_eq hnum hden, exponentOf_eq (num_pos_of_le hnum hden h) hden']
  omega

/-! ## The rounded quotient

`rounded` is the number that `ofRatio` stands for if it is finite, and `roundedWhole` its whole part,
which is what is left of a length after truncation. -/

/-- The number that a quotient is rounded to, if that is not too great. -/
def rounded (num den : Nat) : ℚ := nearestAt (exponentOf num den) num den * 2 ^ exponentOf num den

/-- The whole part of the number that a quotient is rounded to. -/
def roundedWhole (num den : Nat) : Nat :=
  wholePart (nearestAt (exponentOf num den) num den) (exponentOf num den)

/-- The mantissa has at most 53 bits, or is the power of two that begins the next binade. -/
theorem nearestAt_exponentOf_le (hden : 0 < den) :
    nearestAt (exponentOf num den) num den ≤ 2 ^ 53 := by
  refine nearestAt_le hden (le_of_lt ?_)
  rw [Nat.cast_pow, Nat.cast_ofNat, ← zpow_natCast, ← zpow_add₀ two_ne_zero, add_comm]
  exact lt_two_zpow_exponentOf hden

@[simp] theorem rounded_zero (hden : 0 < den) : rounded 0 den = 0 := by
  have hzero : nearestAt (exponentOf 0 den) 0 den = 0 :=
    Nat.le_zero.mp (nearestAt_le hden (by simp))
  rw [rounded, hzero, Nat.cast_zero, zero_mul]

/-- Quotients are not negative here; the sign is kept apart. -/
theorem rounded_nonneg (num den : Nat) : 0 ≤ rounded num den :=
  mul_nonneg (Nat.cast_nonneg _) (zpow_nonneg zero_le_two _)

/-- The greater quotient is rounded to no less. -/
theorem rounded_mono (hden : 0 < den) (hden' : 0 < den') (h : (num / den : ℚ) ≤ num' / den') :
    rounded num den ≤ rounded num' den' := by
  rcases num.eq_zero_or_pos with rfl | hnum
  · rw [rounded_zero hden]
    exact rounded_nonneg num' den'
  unfold rounded
  rcases (exponentOf_mono hnum hden hden' h).eq_or_lt with heq | hlt
  · -- on one grid
    have hmantissa : (nearestAt (exponentOf num den) num den : ℚ)
        ≤ nearestAt (exponentOf num' den') num' den' := by
      rw [heq]
      exact_mod_cast nearestAt_mono hden hden' _ h
    calc (nearestAt (exponentOf num den) num den * 2 ^ exponentOf num den : ℚ)
        ≤ nearestAt (exponentOf num' den') num' den' * 2 ^ exponentOf num den :=
          mul_le_mul_of_nonneg_right hmantissa (zpow_nonneg zero_le_two _)
      _ = nearestAt (exponentOf num' den') num' den' * 2 ^ exponentOf num' den' := by rw [heq]
  · -- the two are separated by a power of two
    have hmantissa : (nearestAt (exponentOf num den) num den : ℚ) ≤ 2 ^ 53 := by
      exact_mod_cast nearestAt_exponentOf_le hden
    have hmantissa' : (2 : ℚ) ^ 52 ≤ nearestAt (exponentOf num' den') num' den' := by
      have hfull := two_zpow_exponentOf_le (num_pos_of_le hnum hden h) hden'
        ((le_max_right _ _).trans_lt hlt)
      rw [add_comm, zpow_add₀ two_ne_zero] at hfull
      exact_mod_cast le_nearestAt (k := 2 ^ 52) hden' (by exact_mod_cast hfull)
    calc (nearestAt (exponentOf num den) num den * 2 ^ exponentOf num den : ℚ)
        ≤ 2 ^ 53 * 2 ^ exponentOf num den :=
          mul_le_mul_of_nonneg_right hmantissa (zpow_nonneg zero_le_two _)
      _ = 2 ^ 52 * 2 ^ (exponentOf num den + 1) := by
          rw [zpow_add_one₀ two_ne_zero]
          ring
      _ ≤ 2 ^ 52 * 2 ^ exponentOf num' den' :=
          mul_le_mul_of_nonneg_left (zpow_le_zpow_right₀ one_le_two hlt) (by positivity)
      _ ≤ nearestAt (exponentOf num' den') num' den' * 2 ^ exponentOf num' den' :=
          mul_le_mul_of_nonneg_right hmantissa' (zpow_nonneg zero_le_two _)

/-- The integer division of the mantissa takes the whole part of the rounded number. -/
theorem roundedWhole_eq_floor (num den : Nat) : roundedWhole num den = ⌊rounded num den⌋₊ := by
  unfold roundedWhole wholePart rounded
  rw [← power_div_power, mul_div_assoc', ← Nat.cast_mul, Nat.floor_div_eq_div]

/-- Whole parts of rounded quotients are in the order of the quotients. -/
theorem roundedWhole_mono (hden : 0 < den) (hden' : 0 < den') (h : (num / den : ℚ) ≤ num' / den') :
    roundedWhole num den ≤ roundedWhole num' den' := by
  rw [roundedWhole_eq_floor, roundedWhole_eq_floor]
  exact Nat.floor_mono (rounded_mono hden hden' h)

/-- Zero stays zero. -/
theorem roundedWhole_eq_zero (hden : 0 < den) (h : (num / den : ℚ) ≤ 0) :
    roundedWhole num den = 0 := by
  have hzero : (num / den : ℚ) ≤ ((0 : Nat) : ℚ) / (1 : Nat) := by simpa using h
  have hle := roundedWhole_mono hden Nat.one_pos hzero
  rw [roundedWhole_eq_floor 0 1, rounded_zero Nat.one_pos, Nat.floor_zero] at hle
  exact Nat.le_zero.mp hle

/-! ## The range of finite numbers

Beyond the greatest exponent the result is infinite, and so it is at the greatest exponent if the
mantissa is rounded up to `2 ^ 53`. -/

/-- The sign plays no part in rounding. -/
theorem ofRatio_cases (num den : Nat) :
    (∀ negative, ofRatio negative num den = .infinite negative) ∨
      ∀ negative, ofRatio negative num den
        = .finite negative (nearestAt (exponentOf num den) num den) (exponentOf num den) := by
  unfold ofRatio
  dsimp only
  split
  · exact .inl fun _ => rfl
  · exact .inr fun _ => rfl

/-- What is not rounded to infinity is rounded to below the power of two where infinity begins. -/
theorem rounded_lt {negative : Bool} (hden : 0 < den)
    (h : ofRatio negative num den ≠ .infinite negative) :
    rounded num den < 2 ^ (1024 : Int) := by
  have hmantissa : nearestAt (exponentOf num den) num den ≤ 2 ^ 53 := nearestAt_exponentOf_le hden
  have hfinite : exponentOf num den ≤ maxExponent ∧ (exponentOf num den = maxExponent →
      nearestAt (exponentOf num den) num den ≠ power 2 53) := by
    unfold ofRatio at h
    simpa using h
  obtain ⟨hexponent, hlast⟩ := hfinite
  unfold rounded
  unfold maxExponent at hexponent hlast
  -- below the greatest exponent the mantissa may be full; at it, it may not
  rcases hexponent.lt_or_eq with hlt | heq
  · calc (nearestAt (exponentOf num den) num den * 2 ^ exponentOf num den : ℚ)
        ≤ 2 ^ 53 * 2 ^ exponentOf num den :=
          mul_le_mul_of_nonneg_right (by exact_mod_cast hmantissa) (zpow_nonneg zero_le_two _)
      _ = 2 ^ (53 + exponentOf num den) := by rw [zpow_add₀ two_ne_zero]; rfl
      _ < 2 ^ (1024 : Int) := zpow_lt_zpow_right₀ one_lt_two (by omega)
  · have hlt : nearestAt (exponentOf num den) num den < 2 ^ 53 :=
      lt_of_le_of_ne hmantissa (hlast heq)
    calc (nearestAt (exponentOf num den) num den * 2 ^ exponentOf num den : ℚ)
        < 2 ^ 53 * 2 ^ exponentOf num den :=
          mul_lt_mul_of_pos_right (by exact_mod_cast hlt) (zpow_pos two_pos _)
      _ = 2 ^ (53 + exponentOf num den) := by rw [zpow_add₀ two_ne_zero]; rfl
      _ = 2 ^ (1024 : Int) := by rw [heq]; rfl

/-- What is far enough from infinity is rounded to a finite number. -/
theorem ofRatio_eq_finite (negative : Bool) (hden : 0 < den)
    (h : (num / den : ℚ) < 2 ^ (1023 : Int)) :
    ofRatio negative num den
      = .finite negative (nearestAt (exponentOf num den) num den) (exponentOf num den) := by
  -- with a binade to spare the greatest exponent is not reached
  have hexponent : exponentOf num den < 971 := by
    rcases num.eq_zero_or_pos with rfl | hnum
    · have hzero := exponentOf_le (Nat.zero_le 53) hden
        (Nat.mul_pos (Nat.two_pow_pos (53 - 0)) hden)
      omega
    · have hq : (0 : ℚ) < num / den := by positivity
      have hlog : Int.log 2 (num / den : ℚ) < 1023 :=
        (Int.lt_zpow_iff_log_lt (by decide) hq).mp (by exact_mod_cast h)
      rw [exponentOf_eq hnum hden]
      unfold minExponent
      omega
  have hfinite : ¬ (maxExponent < exponentOf num den ∨ exponentOf num den = maxExponent ∧
      nearestAt (exponentOf num den) num den = power 2 53) := by
    unfold maxExponent
    omega
  unfold ofRatio
  simpa using hfinite

end Wordsmith.Binary64
