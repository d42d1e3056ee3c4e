import Wordsmith.Proofs.Text.Literal
import Wordsmith.Token.Json

/-!
# Reading numerals

Numbers are written as decimal digits, after a hyphen if they are negative. The digits are read back
as the number that they were written for, and so is the sign.
-/

namespace Wordsmith.Text

/-- The digits of a number are read as the number. -/
theorem ofDigits_ofNat (n : Nat) : Json.ofDigits (ofNat n) = n := by
  -- with any number of digits read before, as the library reads characters
  have hdigits : ∀ (cs : List Char) (k : Nat), (∀ c ∈ cs, c.isDigit = true) →
      (cs.map CodePoint.ofChar).foldl
          (fun n c => n * 10 + (if c.isDigit then c.val - 48 else 0)) k
        = Nat.ofDigitChars 10 cs k := by
    intro cs
    induction cs with
    | nil => exact fun _ _ => rfl
    | cons c cs ih =>
      intro k h
      have hdigit : (CodePoint.ofChar c).isDigit = true := by
        have hc := h c List.mem_cons_self
        simp only [Char.isDigit, Bool.and_eq_true, decide_eq_true_eq] at hc
        simp only [CodePoint.isDigit, CodePoint.isBetween, Bool.and_eq_true, decide_eq_true_eq]
        exact ⟨hc.1, hc.2⟩
      rw [List.map_cons, List.foldl_cons, hdigit, ih _ fun d hd => h d (List.mem_cons_of_mem c hd),
        Nat.mul_comm]
      rfl
  rw [ofNat_eq_map, Json.ofDigits]
  exact (hdigits _ 0 fun c hc => Nat.isDigit_of_mem_toDigits (by decide) (by decide) hc).trans
    Nat.ofDigitChars_ten_toDigits

/-- Every number has digits. -/
theorem ofNat_ne_nil (n : Nat) : ofNat n ≠ [] := by
  rw [ofNat_eq_map, ne_eq, List.map_eq_nil_iff]
  exact Nat.toDigits_ne_nil

/-- The number that a numeral writes, absent if it is no numeral. -/
def toInt? (t : Text) : Option Int :=
  let (negative, digits) := Json.splitSign t
  if digits.isEmpty || !digits.all CodePoint.isDigit then none
  else some (if negative then -(Json.ofDigits digits : Int) else Json.ofDigits digits)

/-- A numeral is read as its number. -/
@[simp] theorem toInt?_ofInt (n : Int) : (ofInt n).toInt? = some n := by
  have hdigits : ∀ m : Nat, ((ofNat m).isEmpty || !(ofNat m).all CodePoint.isDigit) = false := by
    intro m
    have hall : (ofNat m).all CodePoint.isDigit = true :=
      List.all_eq_true.mpr fun c hc => isDigit_of_mem_ofNat hc
    rw [hall, List.isEmpty_eq_false_iff.mpr (ofNat_ne_nil m)]
    rfl
  cases n with
  | ofNat m =>
    -- a numeral that starts with a digit has no sign
    have hsign : Json.splitSign (ofNat m) = (false, ofNat m) := by
      obtain ⟨c, cs, hcons⟩ := List.exists_cons_of_ne_nil (ofNat_ne_nil m)
      have hc : c.isDigit = true := isDigit_of_mem_ofNat (n := m) (hcons ▸ List.mem_cons_self)
      have hne : ∀ d : Char, (CodePoint.ofChar d).isDigit = false → c ≠ CodePoint.ofChar d := by
        rintro d hd rfl
        exact absurd (hc.symm.trans hd) nofun
      rw [hcons, Json.splitSign, if_neg (hne '-' (by decide)), if_neg (hne '+' (by decide))]
    show toInt? (ofNat m) = _
    unfold toInt?
    rw [hsign]
    simp [hdigits m, ofDigits_ofNat]
  | negSucc m =>
    have hsign : Json.splitSign (ofInt (Int.negSucc m)) = (true, ofNat (m + 1)) := by
      rw [show ofInt (Int.negSucc m) = ofString "-" ++ ofNat (m + 1) from ofString_append "-" _]
      rfl
    unfold toInt?
    rw [hsign]
    simp only [hdigits (m + 1), ofDigits_ofNat, Bool.false_eq_true, if_false, if_true]
    rfl

end Wordsmith.Text
