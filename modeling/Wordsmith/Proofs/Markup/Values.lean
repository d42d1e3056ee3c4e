import Wordsmith.Proofs.Markup.Tags

/-!
# Values in a tag

In the text of a tag the values stand between quotation marks. No name and no escaped value holds a
quotation mark, so a printed tag can be cut into its attributes again: changing the values in the
texts of tags is changing the attributes in the markup (`Markup.rewrites_changeValues`).

* `Text.splitAll`, `Text.join` — a text and its parts between marks.
* `Text.mapSecond` — every second part, which is where the values stand.
* `Text.mapValues_append` — the first value of a tag is changed by the name before it, and the rest on
  its own.
* `Markup.TagWithin.mapTags_changeValues` — a whole tag, under a lexicon.
-/

namespace Wordsmith

open Xml

namespace Text

/-- The name of an attribute, from what stands between the value before and its own value. -/
def attributeName (before : Text) : Text :=
  (before.dropLast.reverse.takeWhile fun c : CodePoint => c ≠ ' ').reverse

/-- Every second part changed, by the name that the part before it ends with. -/
def mapSecond (change : Text → Text → Text) : List Text → List Text
  | before :: value :: parts =>
    before :: change (attributeName before) value :: mapSecond change parts
  | parts => parts

/-- The values in a tag changed, each by the name of its attribute. -/
def mapValues (change : Text → Text → Text) (inside : Text) : Text :=
  join "\"" (mapSecond change (splitAll '"' inside))

/-! ## Parts between marks

Splitting at a mark and joining with it are inverse (`join_splitAll`), and a text that ends at the
first mark is the first part (`splitAll_append`). -/

variable {mark : CodePoint} {t rest : Text}

/-- Without marks there is one part. -/
theorem splitAll_of_ne (h : ∀ c ∈ t, c ≠ mark) : splitAll mark t = [t] := by
  induction t with
  | nil => rfl
  | cons c t ih =>
    rw [splitAll, if_neg (h c List.mem_cons_self), ih fun d hd => h d (List.mem_cons_of_mem c hd)]

/-- The first part goes up to the first mark. -/
theorem splitAll_append (h : ∀ c ∈ t, c ≠ mark) (rest : Text) :
    splitAll mark (t ++ mark :: rest) = t :: splitAll mark rest := by
  induction t with
  | nil => rw [List.nil_append, splitAll, if_pos rfl]
  | cons c t ih =>
    rw [List.cons_append, splitAll, if_neg (h c List.mem_cons_self),
      ih fun d hd => h d (List.mem_cons_of_mem c hd)]

/-- There is always a part, if only an empty one. -/
theorem splitAll_ne_nil (mark : CodePoint) (t : Text) : splitAll mark t ≠ [] := by
  cases t with
  | nil => exact List.cons_ne_nil _ _
  | cons c t =>
    rw [splitAll]
    split
    · exact List.cons_ne_nil _ _
    · split <;> exact List.cons_ne_nil _ _

theorem join_cons (between t : Text) {parts : List Text} (h : parts ≠ []) :
    join between (t :: parts) = t ++ between ++ join between parts := by
  cases parts with
  | nil => exact absurd rfl h
  | cons part parts => rfl

/-- Nothing is lost in splitting. -/
theorem join_splitAll (mark : CodePoint) (t : Text) : join [mark] (splitAll mark t) = t := by
  induction t with
  | nil => rfl
  | cons c t ih =>
    rw [splitAll]
    split
    · rename_i hc
      rw [join_cons _ _ (splitAll_ne_nil mark t), ih, hc]
      rfl
    · -- the code point belongs to the first part
      cases hparts : splitAll mark t with
      | nil => exact absurd hparts (splitAll_ne_nil mark t)
      | cons part parts =>
        rw [hparts] at ih
        cases parts with
        | nil => exact congrArg (c :: ·) ih
        | cons next parts => exact congrArg (c :: ·) ih

/-! ## Changing values

The value of an attribute stands between two quotation marks and its name between the last blank and
the equals sign before them. `attributeName` reads that name backwards from the value. -/

variable {change : Text → Text → Text}

/-- There are as many parts as before, so at least one. -/
theorem mapSecond_ne_nil {parts : List Text} (h : parts ≠ []) : mapSecond change parts ≠ [] := by
  match parts with
  | [] => exact absurd rfl h
  | [_] => exact List.cons_ne_nil _ _
  | _ :: _ :: _ => exact List.cons_ne_nil _ _

/-- A change that changes nothing leaves the parts alone. -/
theorem mapSecond_id (h : ∀ name value, change name value = value) (parts : List Text) :
    mapSecond change parts = parts := by
  induction parts using mapSecond.induct with
  | case1 before value parts ih => rw [mapSecond, h, ih]
  | case2 parts hparts => rw [mapSecond]; exact hparts

/-- If no value is changed, the tag stays, wherever its marks are. -/
theorem mapValues_id (h : ∀ name value, change name value = value) (inside : Text) :
    mapValues change inside = inside := by
  unfold mapValues
  rw [mapSecond_id h]
  exact join_splitAll '"' inside

/-- Without quotation marks there are no values. -/
theorem mapValues_of_ne_quote (h : ∀ c ∈ t, c ≠ '"') : mapValues change t = t := by
  unfold mapValues
  rw [splitAll_of_ne h]
  rfl

/-- The first value is changed, and what follows it is treated as a tag of its own. -/
theorem mapValues_append (change : Text → Text → Text) {before value : Text}
    (hbefore : ∀ c ∈ before, c ≠ '"') (hvalue : ∀ c ∈ value, c ≠ '"') (rest : Text) :
    mapValues change (before ++ "\"" ++ value ++ "\"" ++ rest)
      = before ++ "\"" ++ change (attributeName before) value ++ "\"" ++ mapValues change rest := by
  -- what stands before the value, and the value, are the first two parts
  have hsplit : splitAll '"' (before ++ "\"" ++ value ++ "\"" ++ rest)
      = before :: value :: splitAll '"' rest := by
    have hwhole : before ++ "\"" ++ value ++ "\"" ++ rest
        = before ++ CodePoint.ofChar '"' :: (value ++ CodePoint.ofChar '"' :: rest) := by
      simp only [List.append_assoc]
      rfl
    rw [hwhole, splitAll_append hbefore, splitAll_append hvalue]
  unfold mapValues
  rw [hsplit, mapSecond, join_cons _ _ (List.cons_ne_nil _ _),
    join_cons _ _ (mapSecond_ne_nil (splitAll_ne_nil _ rest))]
  simp only [List.append_assoc]

/-- The name is found behind the last blank. -/
theorem attributeName_eq {name : Text} (h : ∀ c ∈ name, c ≠ ' ') (before : Text) :
    attributeName (before ++ (" " ++ name ++ "=")) = name := by
  have hname : ∀ c ∈ name.reverse, decide (c ≠ ' ') = true := fun c hc =>
    decide_eq_true (h c (List.mem_reverse.mp hc))
  have hwhole : before ++ (" " ++ name ++ "=")
      = before ++ [CodePoint.ofChar ' '] ++ name ++ [CodePoint.ofChar '='] := by
    simp only [List.append_assoc]
    rfl
  -- read backwards, the name ends at the blank
  have hspace : (before ++ [CodePoint.ofChar ' ']).reverse.takeWhile
      (fun c : CodePoint => c ≠ ' ') = [] := by
    rw [List.reverse_append]
    exact List.takeWhile_cons_of_neg (by decide)
  unfold attributeName
  rw [hwhole, List.dropLast_concat, List.reverse_append, List.takeWhile_append_of_pos hname, hspace,
    List.append_nil, List.reverse_reverse]

end Text

/-! ## Printed tags

A lexicon may let some tags hold texts as they are, quotation marks included. Values of such tags must
not be changed (`Lexicon.KeepsVerbatim`); every other tag holds plain and escaped values only. -/

/-- A change of values leaves those alone that a lexicon lets stand as they are. -/
def Lexicon.KeepsVerbatim (l : Lexicon) (change : Text → Text → Text → Text) : Prop :=
  ∀ tag t, l.verbatim tag t → ∀ name value, change (Text.ofString tag) name value = value

/-- The attributes of a tag with their values changed, by the tag and by the name of the attribute. -/
def changeValues (change : Text → Text → Text → Text) (tag : String) (attributes : List Attribute) :
    List Attribute :=
  attributes.map fun a => ⟨a.name, change (Text.ofString tag) (Text.ofString a.name) a.written⟩

namespace Markup

open Text

variable {l : Lexicon} {tag : String} {attributes : List Attribute}

/-- No quotation mark is left in a value that is plain or escaped. -/
theorem Written.ne_quote_of_mem {verbatim : Text → Prop} {t : Text} (hverbatim : ∀ t, ¬verbatim t)
    (h : Written verbatim t) {c : CodePoint} (hc : c ∈ t) : c ≠ '"' := by
  cases h with
  | plain h => exact (ne_of_isPlain (h c hc)).2.2
  | escaped t =>
    rcases isPlain_of_mem_escape hc with hplain | rfl
    · exact (ne_of_isPlain hplain).2.2
    · decide
  | verbatim h => exact absurd h (hverbatim t)

/-- An attribute as it is cut: what stands before its value, and the value. -/
theorem print_attribute_eq (a : Attribute) (rest : Text) :
    a.print ++ rest = " " ++ Text.ofString a.name ++ "=" ++ "\"" ++ a.written ++ "\"" ++ rest := by
  have hequals : Text.ofString "=\"" = Text.ofString "=" ++ Text.ofString "\"" := rfl
  rw [Attribute.print, hequals]
  simp only [List.append_assoc]

/-- The attributes in a text are cut off one by one. The induction is on the attributes; only the
first of them has something else before it, the name of the tag. -/
theorem mapValues_attributes (change : Text → Text → Text) (before : Text) {close : Text}
    (hname : ∀ a ∈ attributes, isName a.name = true)
    (hvalue : ∀ a ∈ attributes, ∀ c ∈ a.written, c ≠ '"')
    (hbefore : ∀ c ∈ before, c ≠ '"') (hclose : ∀ c ∈ close, c ≠ '"') :
    mapValues change (before ++ (attributes.flatMap Attribute.print ++ close))
      = before ++ ((attributes.map fun a =>
          (⟨a.name, change (Text.ofString a.name) a.written⟩ : Attribute)).flatMap Attribute.print
        ++ close) := by
  induction attributes generalizing before with
  | nil => exact mapValues_of_ne_quote (List.forall_mem_append.mpr ⟨hbefore, hclose⟩)
  | cons a as ih =>
    have hchars : ∀ c ∈ Text.ofString a.name, c.isNameChar = true :=
      Reader.isNameChar_of_mem (hname a List.mem_cons_self)
    have hspace : ∀ c ∈ Text.ofString a.name, c ≠ ' ' := fun c hc =>
      Reader.ne_of_isNameChar (hchars c hc) (by decide)
    have hstart : ∀ c ∈ before ++ (" " ++ Text.ofString a.name ++ "="), c ≠ '"' := by
      simp only [List.forall_mem_append]
      exact ⟨hbefore, ⟨by decide, fun c hc => Reader.ne_of_isNameChar (hchars c hc) (by decide)⟩,
        by decide⟩
    -- behind the value the next attribute starts, so nothing is left over before it
    have hrest := ih [] (fun b hb => hname b (List.mem_cons_of_mem a hb))
      (fun b hb => hvalue b (List.mem_cons_of_mem a hb)) nofun
    rw [List.nil_append, List.nil_append] at hrest
    have hfirst := mapValues_append change hstart (hvalue a List.mem_cons_self)
      (as.flatMap Attribute.print ++ close)
    rw [attributeName_eq hspace, hrest] at hfirst
    rw [List.flatMap_cons, List.append_assoc, print_attribute_eq, List.map_cons, List.flatMap_cons,
      List.append_assoc, print_attribute_eq]
    simp only [List.append_assoc] at hfirst ⊢
    exact hfirst

/-- A tag that holds escaped values only is changed as a whole. -/
theorem TagWithin.mapTags_changeValues (hl : l.ShowsTags) (h : TagWithin l tag attributes)
    (hverbatim : ∀ t, ¬l.verbatim tag t) (change : Text → Text → Text → Text) {close : Text}
    (hclose : close = "" ∨ close = "/") :
    mapTags (fun inside => mapValues (change (Lexeme.tagName inside)) inside)
        ("<" ++ (printTag tag attributes ++ close) ++ ">")
      = "<" ++ (printTag tag (changeValues change tag attributes) ++ close) ++ ">" := by
  have hmarks : ∀ c ∈ close, c ≠ '>' ∧ c ≠ '"' := by
    rcases hclose with rfl | rfl <;> decide
  -- no bracket closes the tag before its end
  have hinside : ∀ c ∈ printTag tag attributes ++ close, c ≠ '>' := by
    rw [List.forall_mem_append]
    refine ⟨fun c hc => ?_, fun c hc => (hmarks c hc).1⟩
    exact h.of_mem_printTag holdsInTags_ne_close hl.toNamed (fun t ht => absurd ht (hverbatim t)) hc
  have hwhole : beforeClose (printTag tag attributes ++ close)
      = printTag tag attributes ++ close :=
    List.takeWhile_eq_self_iff.mpr fun c hc => decide_eq_true (hinside c hc)
  have htag := h.tagName_eq hl hclose
  rw [hwhole] at htag
  have hname : ∀ c ∈ Text.ofString tag, c ≠ '"' := fun c hc =>
    (ne_of_isPlain (isPlain_of_mem_name (h.isName hl.toNamed) hc)).2.2
  -- between the brackets the attributes are cut off one by one
  have hvalues := mapValues_attributes (change (Text.ofString tag)) (Text.ofString tag)
    (fun a ha => h.isName_attribute hl.toNamed ha)
    (fun a ha c hc => (h.written a ha).ne_quote_of_mem hverbatim hc) hname
    fun c hc => (hmarks c hc).2
  rw [← List.append_assoc, ← List.append_assoc] at hvalues
  rw [mapTags_tag hinside, htag]
  exact congrArg (fun inside => Text.ofString "<" ++ inside ++ Text.ofString ">") hvalues

/-- Changing the values in the texts of tags is changing the attributes in the markup. -/
theorem rewrites_changeValues (hl : l.ShowsTags) {change : Text → Text → Text → Text}
    (hchange : l.KeepsVerbatim change) :
    Rewrites l (fun inside => mapValues (change (Lexeme.tagName inside)) inside)
      (changeValues change) where
  tag := by
    intro tag attributes close h hclose
    by_cases hverbatim : ∃ t, l.verbatim tag t
    · -- values of such a tag stay, and the tag may hold any mark
      obtain ⟨t, ht⟩ := hverbatim
      have hkept := hchange tag t ht
      have hattributes : changeValues change tag attributes = attributes := by
        unfold changeValues
        simp only [hkept]
        exact List.map_id' attributes
      rw [hattributes]
      refine mapTags_of_fixed (fun _ => h.ne_open_of_mem hl hclose) ?_
      rw [h.tagName_eq hl hclose]
      exact mapValues_id hkept _
    · -- otherwise all values are plain or escaped, and each is changed
      exact h.mapTags_changeValues hl (fun t ht => hverbatim ⟨t, ht⟩) change hclose
  endTag := by
    intro tag h
    apply mapValues_of_ne_quote
    rw [List.forall_mem_append]
    exact ⟨by decide, fun c hc => (ne_of_isPlain (isPlain_of_mem_name h hc)).2.2⟩

end Markup

end Wordsmith
