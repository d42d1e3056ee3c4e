import Mathlib.Tactic.SplitIfs
import Wordsmith.Proofs.Markup.Reader
import Wordsmith.Proofs.Text.Literal

/-!
# Escaped texts

Escaping and stripping work on one code point at a time, so both distribute over `++`. An escaped
text is a value of the grammar that shows the text itself (`isValue_escape`), and `unescape` reads
a written value back (`unescape_of_isValue`).

* `isForbidden` and `isSurrogate` — together the code points that are no `Char` of XML 1.0.
-/

namespace Wordsmith

open Xml

/-- A code point that is neither forbidden in markup nor a surrogate is permitted in a document. -/
theorem CodePoint.isXmlChar_eq (c : CodePoint) :
    c.isXmlChar = (!c.isForbidden && !c.isSurrogate) := by
  have hlt := c.val_lt
  rw [Bool.eq_iff_iff]
  simp [isXmlChar, isForbidden, isSurrogate]
  omega

namespace Text

/-! ## Stripping and escaping

What is written of a code point depends on it alone (`CodePoint.escape`). So what an escaped text is
like can be told from one code point. -/

@[simp] theorem strip_nil : strip [] = [] := rfl

@[simp] theorem strip_append (s t : Text) : strip (s ++ t) = strip s ++ strip t :=
  List.filter_append s t

/-- What is left after stripping is not forbidden. -/
theorem isForbidden_of_mem_strip {t : Text} {c : CodePoint} (h : c ∈ strip t) :
    c.isForbidden = false := by
  simpa using (List.mem_filter.mp h).2

/-- The first code point, and the rest. -/
theorem escape_cons (c : CodePoint) (t : Text) : escape (c :: t) = c.escape ++ escape t := rfl

/-- A code point is written as a character of the grammar, in content and in values alike. -/
theorem isCharacter_escape {stop : CodePoint} (hstop : stop = '>' ∨ stop = '"') (c : CodePoint) :
    IsCharacter stop c.escape c := by
  unfold CodePoint.escape
  split_ifs with hamp hlt hgt hquot hapos
  · exact hamp ▸ .reference "amp" '&' (by decide)
  · exact hlt ▸ .reference "lt" '<' (by decide)
  · exact hgt ▸ .reference "gt" '>' (by decide)
  · exact hquot ▸ .reference "quot" '"' (by decide)
  · exact hapos ▸ .reference "apos" '\'' (by decide)
  · -- any other code point stands for itself, since both stops are escaped
    refine .plain c hlt hamp ?_
    rcases hstop with rfl | rfl
    · exact hgt
    · exact hquot

/-- An escaped text is a value of the grammar, which shows the text. -/
theorem isValue_escape {stop : CodePoint} (hstop : stop = '>' ∨ stop = '"') (t : Text) :
    IsValue stop t.escape t := by
  induction t with
  | nil => exact .nil
  | cons c t ih => exact .cons (isCharacter_escape hstop c) ih

/-- The code points of an escaped text are those of the text and those of the five references. -/
theorem mem_escape {t : Text} {c : CodePoint} (h : c ∈ escape t) :
    c ∈ t ∧ c ∉ (['<', '>', '&', '"', '\''] : Text) ∨ c ∈ ("&;ampltgquos" : Text) := by
  obtain ⟨d, hd, hc⟩ := List.mem_flatMap.mp h
  unfold CodePoint.escape at hc
  split_ifs at hc with hamp hlt hgt hquot hapos
  · exact Or.inr ((by decide : ∀ c ∈ ofString "&amp;", c ∈ ofString "&;ampltgquos") c hc)
  · exact Or.inr ((by decide : ∀ c ∈ ofString "&lt;", c ∈ ofString "&;ampltgquos") c hc)
  · exact Or.inr ((by decide : ∀ c ∈ ofString "&gt;", c ∈ ofString "&;ampltgquos") c hc)
  · exact Or.inr ((by decide : ∀ c ∈ ofString "&quot;", c ∈ ofString "&;ampltgquos") c hc)
  · exact Or.inr ((by decide : ∀ c ∈ ofString "&apos;", c ∈ ofString "&;ampltgquos") c hc)
  · rw [List.mem_singleton.mp hc]
    exact Or.inl ⟨hd, by simp [hamp, hlt, hgt, hquot, hapos]⟩

/-! ## Reading a value back

`unescapeFrom` goes through character data and keeps nothing but the
reference that it is in. On values of the grammar it cannot fail. -/

/-- The text that a written value shows; the state is a reference that has been read in part. -/
def unescapeFrom : Option Text → Text → Text
  | _, [] => []
  | reference, c :: t =>
    match readCharacter reference c with
    | some (reference, shown) => shown ++ unescapeFrom reference t
    | none => unescapeFrom none t

/-- The text that a written value shows. -/
def unescape (t : Text) : Text := unescapeFrom none t

/-- The name of a reference is gathered up to the semicolon. -/
theorem unescapeFrom_name {name : Text} (h : ∀ d ∈ name, d ≠ ';') (read t : Text) :
    unescapeFrom (some read) (name ++ t) = unescapeFrom (some (read ++ name)) t := by
  induction name generalizing read with
  | nil => simp
  | cons d name ih =>
    rw [List.cons_append, unescapeFrom, readCharacter, if_neg (h d List.mem_cons_self)]
    show [] ++ unescapeFrom (some (read ++ [d])) (name ++ t) = _
    rw [List.nil_append, ih fun e he => h e (List.mem_cons_of_mem d he), List.append_assoc,
      List.singleton_append]

/-- A character of the grammar is read as the code point that it stands for. -/
theorem unescapeFrom_character {stop : CodePoint} {w : Text} {c : CodePoint}
    (h : IsCharacter stop w c) (t : Text) :
    unescapeFrom none (w ++ t) = c :: unescapeFrom none t := by
  cases h with
  | plain c hlt hamp _ =>
    rw [List.singleton_append, unescapeFrom, readCharacter, if_neg hamp, if_neg hlt]
    rfl
  | reference name c h =>
    obtain ⟨hlookup, hsemicolon⟩ := Reader.lookup_of_mem_entities h
    -- the ampersand opens a reference, and the semicolon looks up the name between them
    have hopen : unescapeFrom none ("&" ++ (name ++ (";" ++ t)))
        = unescapeFrom (some []) (name ++ (";" ++ t)) := rfl
    have hclose : unescapeFrom (some name) (";" ++ t) = c :: unescapeFrom none t := by
      show unescapeFrom (some name) (CodePoint.ofChar ';' :: t) = _
      rw [unescapeFrom, readCharacter, if_pos rfl, hlookup]
      rfl
    rw [List.append_assoc, List.append_assoc, hopen, unescapeFrom_name hsemicolon, List.nil_append,
      hclose]

/-- A written value reads as what it shows. -/
theorem unescape_of_isValue {stop : CodePoint} {w shown : Text} (h : IsValue stop w shown) :
    unescape w = shown := by
  induction h with
  | nil => rfl
  | cons hc _ ih => rw [unescape, unescapeFrom_character hc, ← unescape, ih]

/-- What has been escaped is read back as it was. -/
@[simp] theorem unescape_escape (t : Text) : unescape t.escape = t :=
  unescape_of_isValue (isValue_escape (Or.inl rfl) t)

end Text

end Wordsmith
