import Mathlib.Data.List.Basic
import Wordsmith.Proofs.Markup.Escape

/-!
# Escaping by replacement

A text can also be escaped in passes: the ampersands are replaced first, and then the other four
characters one after another, each in what the passes before have written (`escapeInTurn`). No pass
meets a character that an earlier one has put in, since only references have been put in and the only
one of the five characters in a reference is the ampersand. So the passes are one replacement of each
code point by itself (`escapeInTurn_eq`), whatever the text looks like, and the laws of escaping are
those of a replacement of this kind (`escape_laws`).

* `foldl_replace_eq_flatMap` — passes over any table whose later marks do not occur in what earlier
  ones are replaced by.
* `exists_entity_of_isValue` — an ampersand in a written value starts one of the references.
* `strip_eq_filter` — stripping keeps exactly the permitted code points and the surrogates.
-/

namespace Wordsmith.Text

/-! ## Replacing in passes

Replacement is defined for any text to be replaced, as it works on texts in general: at each place it
is looked for, and what has been replaced is not looked at again in this pass. -/

/-- The rest of a text in which `old` is being replaced by `new`; its first `skip` code points belong
to an occurrence that has been replaced already. -/
def replaceFrom (old new : Text) : (skip : Nat) → Text → Text
  | _, [] => []
  | skip + 1, _ :: t => replaceFrom old new skip t
  | 0, c :: t =>
    if startsWith old (c :: t) then new ++ replaceFrom old new (old.length - 1) t
    else c :: replaceFrom old new 0 t

/-- The text with `new` in the place of every occurrence of `old`, which is not empty. Occurrences are
taken from left to right and do not overlap. -/
def replace (t old new : Text) : Text := replaceFrom old new 0 t

/-- The text with its ampersands replaced, then its brackets, then its quotation marks. -/
def escapeInTurn (t : Text) : Text :=
  ((((t.replace "&" "&amp;").replace "<" "&lt;").replace ">" "&gt;").replace "\"" "&quot;").replace
    "'" "&apos;"

/-- What stands for a code point if all marks of a table are replaced at once. -/
def substitute : (table : List (CodePoint × Text)) → CodePoint → Text
  | [], c => [c]
  | (mark, new) :: table, c => if c = mark then new else substitute table c

/-- To replace a single mark, every code point is looked at by itself. -/
theorem replace_singleton (t : Text) (mark : CodePoint) (new : Text) :
    t.replace [mark] new = t.flatMap fun c => if c = mark then new else [c] := by
  unfold replace
  induction t with
  | nil => rfl
  | cons c t ih =>
    -- a needle of one code point is found exactly where that stands
    have hstarts : startsWith [mark] (c :: t) = true ↔ c = mark := by
      unfold startsWith
      rw [dropLead?]
      split
      · rename_i heq
        simp [dropLead?, heq]
      · rename_i hne
        simp [Ne.symm hne]
    rw [List.flatMap_cons, replaceFrom]
    by_cases hc : c = mark
    · rw [if_pos (hstarts.mpr hc), if_pos hc]
      exact congrArg (new ++ ·) ih
    · rw [if_neg (mt hstarts.mp hc), if_neg hc, ih]
      rfl

/-- A text without marks is left as it is. -/
theorem flatMap_substitute {table : List (CodePoint × Text)} {t : Text}
    (h : ∀ entry ∈ table, entry.1 ∉ t) : t.flatMap (substitute table) = t := by
  have hself : ∀ c ∈ t, substitute table c = [c] := by
    intro c hc
    induction table with
    | nil => rfl
    | cons entry table ih =>
      have hne : c ≠ entry.1 := fun heq => h entry List.mem_cons_self (heq ▸ hc)
      rw [substitute, if_neg hne, ih fun e he => h e (List.mem_cons_of_mem _ he)]
  rw [List.flatMap_congr hself, List.flatMap_singleton']

/-- Passes are a replacement at once if none of them meets what an earlier one has put in. -/
theorem foldl_replace_eq_flatMap {table : List (CodePoint × Text)}
    (h : table.Pairwise fun earlier later => later.1 ∉ earlier.2) (t : Text) :
    table.foldl (fun t entry => t.replace [entry.1] entry.2) t = t.flatMap (substitute table) := by
  -- the induction is on the passes, with any text before the first of them
  induction table generalizing t with
  | nil => exact (List.flatMap_singleton' t).symm
  | cons entry table ih =>
    obtain ⟨hfirst, hrest⟩ := List.pairwise_cons.mp h
    rw [List.foldl_cons, ih hrest, replace_singleton, List.flatMap_assoc]
    refine List.flatMap_congr fun c _ => ?_
    rw [substitute]
    split
    · exact flatMap_substitute hfirst
    · exact List.flatMap_singleton _ _

/-- The five characters and their references, in the order of the passes. -/
def references : List (CodePoint × Text) :=
  [('&', "&amp;"), ('<', "&lt;"), ('>', "&gt;"), ('"', "&quot;"), ('\'', "&apos;")]

/-- The five passes are escaping, code point by code point. -/
theorem escapeInTurn_eq (t : Text) : t.escapeInTurn = t.escape := by
  have hpasses : t.escapeInTurn
      = references.foldl (fun t entry => t.replace [entry.1] entry.2) t := rfl
  -- only the first mark, the ampersand, is in a reference
  rw [hpasses, foldl_replace_eq_flatMap (by decide)]
  rfl

/-- With the ampersands last, the reference of a bracket would be taken apart. -/
example : (replace "<" "<" "&lt;").replace "&" "&amp;" = "&amp;lt;" := by decide

/-! ## Laws of escaping

Escaping is a map from code points to texts, extended to texts, and it has a left inverse. -/

/-- The parts of a text are escaped by themselves. -/
theorem escape_append (s t : Text) : (s ++ t).escape = s.escape ++ t.escape :=
  List.flatMap_append

/-- No two texts are escaped alike. -/
theorem escape_injective : Function.Injective escape :=
  Function.LeftInverse.injective unescape_escape

/-- Neither a bracket nor a quotation mark is left. -/
theorem not_mem_escape {t : Text} {c : CodePoint} (hc : c ∈ t.escape) :
    c ∉ (['<', '>', '"', '\''] : Text) := by
  rcases mem_escape hc with ⟨-, hplain⟩ | hreference
  · exact fun hmem =>
      hplain ((by decide : (['<', '>', '"', '\''] : Text) ⊆ ['<', '>', '&', '"', '\'']) hmem)
  · exact (by decide : ∀ c ∈ ofString "&;ampltgquos", c ∉ (['<', '>', '"', '\''] : Text)) c
      hreference

open Xml in
/-- An ampersand in a written value starts one of the references. -/
theorem exists_entity_of_isValue {stop : CodePoint} {w shown : Text} (h : IsValue stop w shown)
    {before after : Text} (hsplit : w = before ++ CodePoint.ofChar '&' :: after) :
    ∃ entity ∈ entities, entity.1 ++ ofString ";" <+: after := by
  -- the ampersand stands in the first character of the value, or in the rest
  induction h generalizing before with
  | nil => exact absurd hsplit.symm (by simp)
  | @cons w ws shown c hc hrest ih =>
    rcases List.append_eq_append_iff.mp hsplit with ⟨skipped, -, hws⟩ | ⟨met, hw, hws⟩
    · exact ih hws
    · cases met with
      | nil => exact @ih [] hws.symm
      | cons d met =>
        obtain ⟨rfl, rfl⟩ := List.cons_eq_cons.mp hws
        cases hc with
        | plain c _ hamp _ =>
          -- an ampersand does not stand for itself
          have hmem : CodePoint.ofChar '&' ∈ [c] := hw ▸ List.mem_append_right _ List.mem_cons_self
          exact absurd (List.mem_singleton.mp hmem).symm hamp
        | reference name c hname =>
          have hnone : ∀ e ∈ entities, CodePoint.ofChar '&' ∉ e.1 ++ ofString ";" := by decide
          cases before with
          | nil =>
            refine ⟨(name, c), hname, ws, ?_⟩
            rw [← (List.cons_eq_cons.mp hw).2]
            rfl
          | cons e before =>
            -- behind the first ampersand of a reference there is no other
            have htail : name ++ ofString ";" = before ++ CodePoint.ofChar '&' :: met :=
              (List.cons_eq_cons.mp hw).2
            exact absurd (htail ▸ List.mem_append_right _ List.mem_cons_self) (hnone _ hname)

/-! ## Laws of stripping

Stripping is a filter. What it removes is said by `CodePoint.isForbidden`, which leaves the surrogates
to the encoding. -/

/-- What is kept are the permitted code points and the surrogates. -/
theorem strip_eq_filter (t : Text) :
    t.strip = t.filter fun c => c.isXmlChar || c.isSurrogate := by
  refine List.filter_congr fun c _ => ?_
  rw [CodePoint.isXmlChar_eq]
  cases hsurrogate : c.isSurrogate with
  | false => simp
  | true =>
    have hforbidden : c.isForbidden = false := by
      simp [CodePoint.isSurrogate] at hsurrogate
      simp [CodePoint.isForbidden]
      omega
    rw [hforbidden]
    rfl

/-- A forbidden code point has no reference, and no reference holds one. -/
theorem strip_escape_codePoint (c : CodePoint) :
    strip c.escape = if c.isForbidden then [] else c.escape := by
  have hcharacter : Xml.IsCharacter '>' c.escape c := isCharacter_escape (Or.inl rfl) c
  generalize c.escape = w at hcharacter
  cases hcharacter with
  | plain =>
    show List.filter _ _ = _
    rw [List.filter_singleton]
    cases c.isForbidden <;> rfl
  | reference name _ hname =>
    -- references consist of permitted code points and stand for permitted ones
    have hfixed : ∀ e ∈ Xml.entities, e.2.isForbidden = false ∧
        strip (ofString "&" ++ e.1 ++ ofString ";") = ofString "&" ++ e.1 ++ ofString ";" := by
      decide
    obtain ⟨hpermitted, hstrip⟩ := hfixed _ hname
    rw [hstrip, hpermitted]
    rfl

/-- Stripping and escaping commute. -/
theorem strip_escape (t : Text) : t.escape.strip = t.strip.escape := by
  induction t with
  | nil => rfl
  | cons c t ih =>
    rw [escape_cons, strip_append, ih, strip_escape_codePoint]
    cases hforbidden : c.isForbidden with
    | true =>
      have hdropped : strip (c :: t) = strip t := List.filter_cons_of_neg (by simp [hforbidden])
      rw [hdropped]
      rfl
    | false =>
      have hkept : strip (c :: t) = c :: strip t := List.filter_cons_of_pos (by simp [hforbidden])
      rw [hkept]
      rfl

/-- Stripping twice is stripping once. -/
theorem strip_strip (t : Text) : t.strip.strip = t.strip :=
  List.filter_eq_self.mpr fun _ hc => (List.mem_filter.mp hc).2

/-- The permitted code points are all kept. -/
theorem filter_isXmlChar_strip (t : Text) :
    t.strip.filter CodePoint.isXmlChar = t.filter CodePoint.isXmlChar := by
  rw [strip_eq_filter, List.filter_filter]
  refine List.filter_congr fun c _ => ?_
  cases c.isXmlChar <;> rfl

/-- Escaping in passes is escaping code point by code point. It distributes over `++`, leaves no bracket
and no quotation mark, and no ampersand that does not start a reference; it is undone by reading the
references, so no two texts are escaped alike. Stripping may come before it or after it. Once is
enough for stripping, which distributes over `++` as well, keeps the permitted code points in their
order, and leaves nothing else but surrogates. -/
theorem escape_laws (s t : Text) :
    t.escapeInTurn = t.escape ∧ (s ++ t).escape = s.escape ++ t.escape ∧
      (∀ c ∈ t.escape, c ∉ (['<', '>', '"', '\''] : Text)) ∧
      (∀ before after : Text, t.escape = before ++ CodePoint.ofChar '&' :: after →
        ∃ entity ∈ Xml.entities, entity.1 ++ ofString ";" <+: after) ∧
      unescape t.escape = t ∧ (s.escape = t.escape → s = t) ∧
      t.escape.strip = t.strip.escape ∧ t.strip.strip = t.strip ∧
      (s ++ t).strip = s.strip ++ t.strip ∧ t.strip.Sublist t ∧
      t.strip.filter CodePoint.isXmlChar = t.filter CodePoint.isXmlChar ∧
      ∀ c ∈ t.strip, c.isXmlChar = true ∨ c.isSurrogate = true := by
  have hvalue : Xml.IsValue '>' t.escape t := isValue_escape (Or.inl rfl) t
  have hkept : ∀ c ∈ t.strip, c.isXmlChar = true ∨ c.isSurrogate = true := by
    intro c hc
    rw [strip_eq_filter] at hc
    exact Bool.or_eq_true_iff.mp (List.mem_filter.mp hc).2
  exact ⟨escapeInTurn_eq t, escape_append s t, fun c => not_mem_escape,
    fun before after => exists_entity_of_isValue hvalue, unescape_escape t, @escape_injective s t,
    strip_escape t, strip_strip t, strip_append s t, List.filter_sublist, filter_isXmlChar_strip t,
    hkept⟩

/-- A text that looks escaped is escaped all the same, and read back as it was. -/
theorem escape_laws_looksEscaped :
    let s : Text := "&lt"
    let t : Text := ("&l" : Text) ++ [⟨0xD800, by decide⟩, ⟨0x1, by decide⟩] ++ ofString "t;&#38;'"
    let before : Text :=
      ("&amp;l" : Text) ++ [⟨0xD800, by decide⟩, ⟨0x1, by decide⟩] ++ ofString "t;"
    let after : Text := "amp;#38;&apos;"
    t.escape = before ++ CodePoint.ofChar '&' :: after ∧
      t.escapeInTurn = before ++ CodePoint.ofChar '&' :: after ∧
      (∃ entity ∈ Xml.entities, entity.1 ++ ofString ";" <+: after) ∧
      (s ++ t).escape = "&amp;lt" ++ t.escape ∧ unescape t.escape = t ∧ s.escape ≠ t.escape ∧
      CodePoint.ofChar '<' ∉ t.escape ∧ t.escape.strip = t.strip.escape := by
  intro s t before after
  obtain ⟨hpasses, happend, hclean, hampersand, hread, hinj, hstrip, -⟩ := escape_laws s t
  -- the ampersand in front of a reference that was there before is escaped like any other
  have hsplit : t.escape = before ++ CodePoint.ofChar '&' :: after := by decide
  exact ⟨hsplit, hpasses.trans hsplit, hampersand before after hsplit, happend, hread,
    fun heq => absurd (hinj heq) (by decide), fun hmem => hclean _ hmem (by decide), hstrip⟩

end Wordsmith.Text
