import Wordsmith.Proofs.Markup.Escape
import Wordsmith.Text.Utf8

/-!
# Texts that can be encoded

A text can be encoded if it holds no surrogate. Strings hold none, and neither escaping nor
stripping adds or removes one, so a print can be encoded exactly if all values and texts that are
written in it can. The lemmas push `IsEncodable` down to those; `simp` closes what is fixed.

* `Text.utf8?_of_isEncodable`, `Text.isEncodable_of_utf8?` — encoding succeeds exactly on these texts.
* `Text.isEncodable_strip`, `Text.isEncodable_escape` — what is done to a text before it is written
  does not matter.
* `Markup.isEncodable_print_element` — a print is judged by the values and the content of its elements.
-/

namespace Wordsmith

namespace Text

/-- The text holds no surrogate. -/
def IsEncodable (t : Text) : Prop := ∀ c ∈ t, c.isSurrogate = false

/-- Encoding refuses surrogates and nothing else. -/
theorem utf8?_of_isEncodable {t : Text} (h : t.IsEncodable) :
    t.utf8? = some (t.flatMap CodePoint.utf8) := by
  unfold utf8?
  rw [if_neg]
  rw [List.any_eq_true]
  rintro ⟨c, hc, hsurrogate⟩
  rw [h c hc] at hsurrogate
  exact absurd hsurrogate (by decide)

/-- Only texts without surrogates have bytes. -/
theorem isEncodable_of_utf8? {t : Text} {data : List UInt8} (h : t.utf8? = some data) :
    t.IsEncodable := by
  unfold utf8? at h
  split at h
  · exact absurd h nofun
  · rename_i hany
    intro c hc
    rw [Bool.eq_false_iff]
    exact fun hsurrogate => hany (List.any_eq_true.mpr ⟨c, hc, hsurrogate⟩)

@[simp] theorem isEncodable_nil : IsEncodable [] := nofun

@[simp] theorem isEncodable_append {s t : Text} :
    IsEncodable (s ++ t) ↔ s.IsEncodable ∧ t.IsEncodable :=
  List.forall_mem_append

/-- A character is no surrogate. -/
@[simp] theorem isEncodable_ofString (s : String) : (ofString s).IsEncodable := by
  intro c hc
  obtain ⟨d, -, rfl⟩ := List.mem_map.mp hc
  -- a character is a code point outside of the surrogates by its type
  have hvalid : d.toNat < 0xD800 ∨ 0xDFFF < d.toNat ∧ d.toNat < 0x110000 := d.valid
  show (decide (0xD800 ≤ d.toNat) && decide (d.toNat < 0xE000)) = false
  rw [Bool.and_eq_false_iff, decide_eq_false_iff_not, decide_eq_false_iff_not]
  omega

@[simp] theorem isEncodable_ofNat (n : Nat) : (ofNat n).IsEncodable := isEncodable_ofString _

@[simp] theorem isEncodable_ofInt (n : Int) : (ofInt n).IsEncodable := isEncodable_ofString _

/-- The code points that are stripped are no surrogates. -/
@[simp] theorem isEncodable_strip {t : Text} : t.strip.IsEncodable ↔ t.IsEncodable := by
  constructor
  · intro h c hc
    cases hforbidden : c.isForbidden with
    | false => exact h c (List.mem_filter.mpr ⟨hc, by rw [hforbidden]; rfl⟩)
    | true =>
      -- the forbidden code points lie below or above the surrogates
      simp [CodePoint.isForbidden] at hforbidden
      simp [CodePoint.isSurrogate]
      omega
  · intro h c hc
    exact h c (List.mem_filter.mp hc).1

/-- Escaping writes references for some characters, and those are spelled in letters and marks. -/
@[simp] theorem isEncodable_escape {t : Text} : t.escape.IsEncodable ↔ t.IsEncodable := by
  have hreference : ∀ c ∈ ofString "&;ampltgquos", c.isSurrogate = false :=
    isEncodable_ofString _
  constructor
  · intro h c hc
    unfold escape at h
    cases hsurrogate : c.isSurrogate with
    | false => rfl
    | true =>
      -- a surrogate is written as it is
      have hself : c.escape = [c] := by
        have hne : ∀ d : Char, c ≠ CodePoint.ofChar d := by
          rintro d rfl
          have hfalse := isEncodable_ofString (String.singleton d) (.ofChar d)
            (by simp [ofString])
          rw [hfalse] at hsurrogate
          exact absurd hsurrogate (by decide)
        simp [CodePoint.escape, hne]
      have hmem : c ∈ t.flatMap CodePoint.escape :=
        List.mem_flatMap.mpr ⟨c, hc, by rw [hself]; exact List.mem_cons_self⟩
      rw [← hsurrogate]
      exact h c hmem
  · intro h c hc
    rcases mem_escape hc with ⟨hmem, -⟩ | hmem
    · exact h c hmem
    · exact hreference c hmem

end Text

namespace Markup

open Text

/-! ## Prints

Tags, names and quotation marks are strings. What may hold a surrogate are the values of attributes and
the texts, and a print holds one if one of them does. -/

@[simp] theorem isEncodable_attribute {a : Attribute} :
    a.print.IsEncodable ↔ a.written.IsEncodable := by
  simp [Attribute.print]

@[simp] theorem isEncodable_printTag {tag : String} {attributes : List Attribute} :
    (printTag tag attributes).IsEncodable ↔ ∀ a ∈ attributes, a.written.IsEncodable := by
  -- the attributes are printed one after the other
  have hall : IsEncodable (attributes.flatMap Attribute.print)
      ↔ ∀ a ∈ attributes, a.written.IsEncodable := by
    induction attributes with
    | nil => simp
    | cons a as ih => rw [List.flatMap_cons, isEncodable_append, ih, isEncodable_attribute,
        List.forall_mem_cons]
  simp [printTag, hall]

@[simp] theorem isEncodable_printAll {ms : List Markup} :
    (printAll ms).IsEncodable ↔ ∀ m ∈ ms, m.print.IsEncodable := by
  induction ms with
  | nil => simp [printAll]
  | cons m ms ih => rw [printAll, isEncodable_append, ih, List.forall_mem_cons]

@[simp] theorem isEncodable_print_text {t : Text} :
    (print (.text t)).IsEncodable ↔ t.IsEncodable := by
  rw [print]

@[simp] theorem isEncodable_print_empty {tag : String} {attributes : List Attribute} :
    (print (.empty tag attributes)).IsEncodable ↔ ∀ a ∈ attributes, a.written.IsEncodable := by
  simp [print]

@[simp] theorem isEncodable_print_element {tag : String} {attributes : List Attribute}
    {children : List Markup} :
    (print (.element tag attributes children)).IsEncodable
      ↔ (∀ a ∈ attributes, a.written.IsEncodable) ∧ ∀ m ∈ children, m.print.IsEncodable := by
  simp [print]

@[simp] theorem isEncodable_document {m : Markup} :
    (Vocabulary.print m).IsEncodable ↔ m.print.IsEncodable := by
  simp [Vocabulary.print, Vocabulary.declaration]

end Markup

end Wordsmith
