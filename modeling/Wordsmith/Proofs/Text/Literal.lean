import Wordsmith.Text.Basic

/-!
# Literals and numerals as texts

Tags, attribute names and fixed values enter a text as string literals, and numbers as decimal
digits. What is proved about them here:

* **literals are told apart as strings**: reading a string as a text is injective, so a
  comparison of two literals is decided by `simp`;
* **numerals are told apart as numbers**: `ofNat_inj`, by reading the digits back;
* **numerals hold digits only**, after a hyphen if the number is negative.
-/

namespace Wordsmith

namespace CodePoint

/-- Code points of characters are told apart as characters. -/
@[simp] theorem ofChar_inj {c d : Char} : ofChar c = ofChar d ↔ c = d := by
  constructor
  · intro h
    have hval : c.toNat = d.toNat := congrArg CodePoint.val h
    exact Char.toNat_inj.mp hval
  · intro h
    rw [h]

@[simp] theorem val_ofChar (c : Char) : (ofChar c).val = c.toNat := rfl

/-- So a comparison with a character is one of numbers. -/
theorem eq_ofChar_iff {c : CodePoint} {d : Char} : c = ofChar d ↔ c.val = d.toNat := by
  constructor
  · rintro rfl
    rfl
  · intro h
    cases c
    cases h
    rfl

/-- What holds of every character of `s` holds of a code point that is one of them. -/
theorem of_isIn {c : CodePoint} {s : String} {p : CodePoint → Bool} (h : c.isIn s = true)
    (hall : s.toList.all fun d => p d) : p c = true := by
  obtain ⟨d, hd, hcd⟩ := List.any_eq_true.mp h
  rw [of_decide_eq_true hcd]
  exact List.all_eq_true.mp hall d hd

/-- What is said of no character of `s` tells a code point apart from them. -/
theorem isIn_eq_false {c : CodePoint} {s : String} {p : CodePoint → Bool} (hc : p c = true)
    (hnone : s.toList.all fun d => !p d) : c.isIn s = false := by
  rw [← Bool.not_eq_true]
  intro h
  have hnot : (!p c) = true := of_isIn (p := fun c => !p c) h hnone
  rw [hc] at hnot
  cases hnot

end CodePoint

namespace Text

/-! ## Literals

Literals stand on both sides of most comparisons in the parts, and there `simp` decides them with these
equations. -/

@[simp] theorem ofString_inj {s t : String} : ofString s = ofString t ↔ s = t := by
  constructor
  · intro h
    have hinj : Function.Injective CodePoint.ofChar := fun _ _ h => CodePoint.ofChar_inj.mp h
    exact String.toList_inj.mp ((List.map_inj_right fun _ _ h => hinj h).mp h)
  · intro h
    rw [h]

@[simp] theorem ofString_beq {s t : String} : (ofString s == ofString t) = (s == t) := by
  rw [Bool.eq_iff_iff, beq_iff_eq, beq_iff_eq, ofString_inj]

@[simp] theorem ofString_eq_nil {s : String} : ofString s = [] ↔ s = "" := by
  unfold ofString
  rw [List.map_eq_nil_iff, String.toList_eq_nil_iff]

/-- A literal that is put together is the texts one after the other. -/
theorem ofString_append (s t : String) : ofString (s ++ t) = ofString s ++ ofString t := by
  unfold ofString
  rw [String.toList_append, List.map_append]

/-- A lead that stands in front is dropped. -/
theorem dropLead?_append (lead t : Text) : dropLead? lead (lead ++ t) = some t := by
  induction lead with
  | nil => cases t <;> rfl
  | cons c lead ih => rw [List.cons_append, dropLead?, if_pos rfl, ih]

/-- Only a lead that stands in front is dropped. -/
theorem eq_append_of_dropLead? {lead t rest : Text} (h : dropLead? lead t = some rest) :
    t = lead ++ rest := by
  induction lead generalizing t with
  | nil =>
    cases t <;> exact Option.some.inj h
  | cons c lead ih =>
    cases t with
    | nil => cases h
    | cons d t =>
      rw [dropLead?] at h
      split at h
      · rename_i hcd
        rw [hcd, ih h, List.cons_append]
      · cases h

/-! ## Numerals

A numeral is the text of the digits that the library writes. -/

/-- The digits of a number, as code points. -/
theorem ofNat_eq_map (n : Nat) : ofNat n = (Nat.toDigits 10 n).map CodePoint.ofChar := by
  show n.repr.toList.map CodePoint.ofChar = _
  rw [Nat.toList_repr]

/-- Different numbers have different numerals, since the digits can be read back. -/
theorem ofNat_inj {m n : Nat} : ofNat m = ofNat n ↔ m = n := by
  constructor
  · intro h
    rw [ofNat_eq_map, ofNat_eq_map] at h
    -- the texts agree digit by digit
    have hdigits : Nat.toDigits 10 m = Nat.toDigits 10 n :=
      (List.map_inj_right fun _ _ h => CodePoint.ofChar_inj.mp h).mp h
    rw [← Nat.ofDigitChars_ten_toDigits (n := m), hdigits, Nat.ofDigitChars_ten_toDigits]
  · intro h
    rw [h]

/-- A numeral holds digits only. -/
theorem isDigit_of_mem_ofNat {n : Nat} {c : CodePoint} (h : c ∈ ofNat n) : c.isDigit = true := by
  rw [ofNat_eq_map] at h
  obtain ⟨d, hd, rfl⟩ := List.mem_map.mp h
  have hdigit : d.isDigit = true := Nat.isDigit_of_mem_toDigits (by decide) (by decide) hd
  simp only [Char.isDigit, Bool.and_eq_true, decide_eq_true_eq] at hdigit
  simp only [CodePoint.isDigit, CodePoint.isBetween, Bool.and_eq_true, decide_eq_true_eq]
  exact ⟨hdigit.1, hdigit.2⟩

/-- The numeral of an integer holds digits, and a hyphen if the integer is negative. -/
theorem isDigit_or_hyphen_of_mem_ofInt {n : Int} {c : CodePoint} (h : c ∈ ofInt n) :
    c.isDigit = true ∨ c = '-' := by
  cases n with
  | ofNat m => exact Or.inl (isDigit_of_mem_ofNat (n := m) h)
  | negSucc m =>
    -- a negative numeral is a hyphen before that of the absolute value
    rw [show ofInt (Int.negSucc m) = ofString "-" ++ ofNat (m + 1) from ofString_append "-" _] at h
    rcases List.mem_append.mp h with hsign | hdigit
    · exact Or.inr (List.mem_singleton.mp hsign)
    · exact Or.inl (isDigit_of_mem_ofNat hdigit)

end Text

end Wordsmith
