import Wordsmith.Proofs.Markup.Lexicon

/-!
# Markup without its links

A link is an element around runs. Taking it away leaves the runs where they are, and this can be
said twice: of the tree (`unlinkAll`), and of the text, where the tags of the element are erased
character by character (`eraseLinkTags`). The two agree on what is printed over a lexicon in which a
tag can be told by its first characters (`Within.eraseLinkTags_print`).

* `Lexicon.TellsLinks` — what a lexicon must satisfy: no other tag begins like that of a link.
* `TagWithin.eraseLinkTags_open`, `TagWithin.eraseLinkTags_close` — the eraser at one tag.
* `Within.eraseLinkTags_print` — the eraser over a piece of markup, by induction on it.
-/

namespace Wordsmith

open Xml

/-! ## In the text

The eraser knows nothing of the tree: it looks for the first characters of a link tag, and drops
characters up to the next `>`. That is right only if no such characters stand anywhere else, and if no
attribute has a `>` in it. -/

namespace Text

/-- The tag that opens or closes a link stands at the start of the text. -/
def StartsLinkTag (t : Text) : Prop :=
  ofString "<w:hyperlink r:id=" <+: t ∨ ofString "</w:hyperlink>" <+: t

instance : DecidablePred StartsLinkTag := fun _ => inferInstanceAs (Decidable (_ ∨ _))

/-- The text without the tags of links. If it begins inside of a tag, the tag ends with the next
`>`. -/
def eraseLinkTags (inTag : Bool) : Text → Text
  | [] => []
  | c :: t =>
    if inTag then eraseLinkTags (c ≠ '>') t
    else if StartsLinkTag (c :: t) then eraseLinkTags true t
    else c :: eraseLinkTags false t

/-- Every tag starts with `<`. -/
theorem not_startsLinkTag_of_ne {c : CodePoint} (h : c ≠ '<') (t : Text) :
    ¬StartsLinkTag (c :: t) := by
  rintro (⟨u, hu⟩ | ⟨u, hu⟩)
  · exact h (List.head_eq_of_cons_eq hu).symm
  · exact h (List.head_eq_of_cons_eq hu).symm

/-- Where there is no `<`, nothing is erased. -/
theorem eraseLinkTags_append {t : Text} (h : ∀ c ∈ t, c ≠ '<') (rest : Text) :
    eraseLinkTags false (t ++ rest) = t ++ eraseLinkTags false rest := by
  induction t with
  | nil => rfl
  | cons c t ih =>
    have hne : ¬StartsLinkTag (c :: (t ++ rest)) :=
      not_startsLinkTag_of_ne (h c List.mem_cons_self) _
    rw [List.cons_append, eraseLinkTags, if_neg Bool.false_ne_true, if_neg hne,
      ih fun d hd => h d (List.mem_cons_of_mem c hd)]
    rfl

/-- A tag that is not that of a link stays. -/
theorem eraseLinkTags_kept {t rest : Text} (hstart : ¬StartsLinkTag ("<" ++ t ++ rest))
    (h : ∀ c ∈ t, c ≠ '<') :
    eraseLinkTags false ("<" ++ t ++ rest) = "<" ++ t ++ eraseLinkTags false rest := by
  change ¬StartsLinkTag ('<' :: (t ++ rest)) at hstart
  show eraseLinkTags false ('<' :: (t ++ rest)) = CodePoint.ofChar '<' :: (t ++ _)
  rw [eraseLinkTags, if_neg Bool.false_ne_true, if_neg hstart, eraseLinkTags_append h]

/-- Inside of a tag everything goes, up to its end. -/
theorem eraseLinkTags_inTag {t : Text} (h : ∀ c ∈ t, c ≠ '>') (rest : Text) :
    eraseLinkTags true (t ++ (">" ++ rest)) = eraseLinkTags false rest := by
  induction t with
  | nil =>
    show eraseLinkTags true (CodePoint.ofChar '>' :: rest) = _
    rw [eraseLinkTags, if_pos rfl]
    rfl
  | cons c t ih =>
    rw [List.cons_append, eraseLinkTags, if_pos rfl, decide_eq_true (h c List.mem_cons_self),
      ih fun d hd => h d (List.mem_cons_of_mem c hd)]

/-- A tag of a link goes, from its `<` to its `>`. -/
theorem eraseLinkTags_erased {t rest : Text} (hstart : StartsLinkTag ("<" ++ t ++ (">" ++ rest)))
    (h : ∀ c ∈ t, c ≠ '>') :
    eraseLinkTags false ("<" ++ t ++ (">" ++ rest)) = eraseLinkTags false rest := by
  change StartsLinkTag ('<' :: (t ++ (">" ++ rest))) at hstart
  show eraseLinkTags false ('<' :: (t ++ (">" ++ rest))) = _
  rw [eraseLinkTags, if_neg Bool.false_ne_true, if_pos hstart, eraseLinkTags_inTag h]

/-- Neither text starts with the other. -/
def Apart (s t : Text) : Prop := ¬s <+: t ∧ ¬t <+: s

instance : DecidableRel Apart := fun _ _ => inferInstanceAs (Decidable (_ ∧ _))

/-- What starts with one of two texts that are apart differs from what starts with the other. -/
theorem Apart.not_prefix {s t lead : Text} (h : Apart s t) (hlead : s <+: lead) (rest : Text) :
    ¬lead <+: t ++ rest := by
  intro hprefix
  rcases List.prefix_or_prefix_of_prefix (hlead.trans hprefix) (List.prefix_append t rest)
    with hst | hts
  · exact h.1 hst
  · exact h.2 hts

/-- A tag that is apart from that of a link, and no closing tag, is told from it. -/
theorem not_startsLinkTag_of_apart {t : Text} (hlink : Apart "w:hyperlink" t) (hslash : Apart "/" t)
    (rest : Text) : ¬StartsLinkTag ("<" ++ t ++ rest) := by
  show ¬StartsLinkTag (CodePoint.ofChar '<' :: (t ++ rest))
  rintro (hopen | hclose)
  · exact hlink.not_prefix ⟨" r:id=", rfl⟩ rest (List.cons_prefix_cons.mp hopen).2
  · exact hslash.not_prefix ⟨"w:hyperlink>", rfl⟩ rest (List.cons_prefix_cons.mp hclose).2

/-- A closing tag is told from that of a link by the name in it. -/
theorem not_startsLinkTag_close {t : Text} (hlink : Apart "w:hyperlink" t) (rest : Text) :
    ¬StartsLinkTag ("<" ++ ("/" ++ t) ++ (">" ++ rest)) := by
  have hcons : Text.ofString "<" ++ (Text.ofString "/" ++ t) ++ (">" ++ rest)
      = CodePoint.ofChar '<' :: CodePoint.ofChar '/' :: (t ++ (">" ++ rest)) := by
    rw [List.append_assoc, List.append_assoc]
    rfl
  rw [hcons]
  rintro (hopen | hclose)
  · exact absurd (List.cons_prefix_cons.mp (List.cons_prefix_cons.mp hopen).2).1 (by decide)
  · exact hlink.not_prefix ⟨">", rfl⟩ _
      (List.cons_prefix_cons.mp (List.cons_prefix_cons.mp hclose).2).2

end Text

/-! ## In the tree

The same on the tree, where a link is an element and nothing has to be recognised by its characters. -/

namespace Markup

mutual

/-- A piece of markup without its links; what a link is around stays. -/
def unlink : Markup → List Markup
  | .text written => [.text written]
  | .empty tag attributes => if tag = "w:hyperlink" then [] else [.empty tag attributes]
  | .element tag attributes children =>
    if tag = "w:hyperlink" then unlinkAll children
    else [.element tag attributes (unlinkAll children)]

/-- A sequence of markup without its links. -/
def unlinkAll : List Markup → List Markup
  | [] => []
  | m :: ms => unlink m ++ unlinkAll ms

end

/-- Each piece of a sequence loses its own links. -/
theorem unlinkAll_append (ms ns : List Markup) :
    unlinkAll (ms ++ ns) = unlinkAll ms ++ unlinkAll ns := by
  induction ms with
  | nil => rfl
  | cons m ms ih => rw [List.cons_append, unlinkAll, ih, unlinkAll, List.append_assoc]

/-- The same of pieces that are written one by one. -/
theorem unlinkAll_flatMap {α : Type} (f : α → List Markup) (xs : List α) :
    unlinkAll (xs.flatMap f) = xs.flatMap fun x => unlinkAll (f x) := by
  induction xs with
  | nil => rfl
  | cons x xs ih => rw [List.flatMap_cons, unlinkAll_append, ih, List.flatMap_cons]

/-- A sequence of one piece. -/
theorem unlinkAll_singleton (m : Markup) : unlinkAll [m] = unlink m := by
  rw [unlinkAll, unlinkAll, List.append_nil]

/-- Any other element stays, with what is left of its content. -/
theorem unlinkAll_element_of_ne {tag : String} {attributes : List Attribute} {ms : List Markup}
    (h : tag ≠ "w:hyperlink") :
    unlinkAll [.element tag attributes ms] = [.element tag attributes (unlinkAll ms)] := by
  rw [unlinkAll_singleton, unlink, if_neg h]

theorem unlinkAll_link {attributes : List Attribute} {ms : List Markup} :
    unlinkAll [.element "w:hyperlink" attributes ms] = unlinkAll ms := by
  rw [unlinkAll_singleton, unlink, if_pos rfl]

mutual

/-- A piece in which no link is found stays as it is. -/
theorem unlink_of_find_eq_nil {m : Markup} (h : find "w:hyperlink" [m] = []) :
    unlink m = [m] := by
  cases m with
  | text written => rw [unlink]
  | empty tag attributes =>
    by_cases htag : tag = "w:hyperlink"
    · rw [htag, find_empty_self] at h
      exact absurd h (List.cons_ne_nil _ _)
    · rw [unlink, if_neg htag]
  | element tag attributes children =>
    by_cases htag : tag = "w:hyperlink"
    · rw [htag, find_element_self] at h
      exact absurd h (List.cons_ne_nil _ _)
    · rw [find_element_of_ne htag] at h
      rw [unlink, if_neg htag, unlinkAll_of_find_eq_nil h]

/-- Markup in which no link is found stays as it is. -/
theorem unlinkAll_of_find_eq_nil {ms : List Markup} (h : find "w:hyperlink" ms = []) :
    unlinkAll ms = ms := by
  cases ms with
  | nil => rw [unlinkAll]
  | cons m ms =>
    rw [find_cons, List.append_eq_nil_iff] at h
    rw [unlinkAll, unlink_of_find_eq_nil h.1, unlinkAll_of_find_eq_nil h.2, List.singleton_append]

end

end Markup

/-! ## Over a lexicon

A document part is printed over a lexicon, the list of its tags with their attributes. The conditions
of the eraser are conditions on this list and are decided there once, and not for each document. -/

/-- The tag of a link can be told from any other tag of the lexicon by its first characters, and no
verbatim value looks like a tag. -/
structure Lexicon.TellsLinks (l : Lexicon) : Prop extends l.Named where
  tags : ∀ e ∈ l.tags, e = ("w:hyperlink", ["r:id"]) ∨
    Text.Apart "w:hyperlink" e.1 ∧ Text.Apart "/" e.1
  verbatim : ∀ tag t, l.verbatim tag t → tag ≠ "w:hyperlink" ∧ ∀ c ∈ t, c ≠ '<'

namespace Markup

open Text

variable {l : Lexicon} {tag : String} {attributes : List Attribute}

/-- A tag of a link opens with its only attribute. -/
theorem TagWithin.startsLinkTag (hl : l.TellsLinks) (h : TagWithin l "w:hyperlink" attributes)
    (rest : Text) : StartsLinkTag ("<" ++ printTag "w:hyperlink" attributes ++ rest) := by
  have hnames : attributes.map (·.name) = ["r:id"] := by
    rcases hl.tags _ h.known with heq | hapart
    · exact congrArg Prod.snd heq
    · exact absurd (List.prefix_refl _) hapart.1.1
  obtain ⟨a, rfl, hname⟩ := List.map_eq_singleton_iff.mp hnames
  refine Or.inl ⟨"\"" ++ a.written ++ "\"" ++ rest, ?_⟩
  rw [printTag, List.flatMap_cons, List.flatMap_nil, Attribute.print, hname]
  simp only [List.append_assoc, List.append_nil]
  rfl

/-- Any other tag of the lexicon is apart from that of a link, and is no closing tag. -/
theorem TagWithin.apart (hl : l.TellsLinks) (h : TagWithin l tag attributes)
    (hne : tag ≠ "w:hyperlink") : Apart "w:hyperlink" tag ∧ Apart "/" tag := by
  rcases hl.tags _ h.known with heq | hapart
  · exact absurd (congrArg Prod.fst heq) hne
  · exact hapart

/-- So no other tag is taken for that of a link. -/
theorem TagWithin.not_startsLinkTag (hl : l.TellsLinks) (h : TagWithin l tag attributes)
    (hne : tag ≠ "w:hyperlink") (rest : Text) :
    ¬StartsLinkTag ("<" ++ printTag tag attributes ++ rest) := by
  obtain ⟨hlink, hslash⟩ := h.apart hl hne
  have := not_startsLinkTag_of_apart hlink hslash (attributes.flatMap Attribute.print ++ rest)
  simpa only [printTag, List.append_assoc] using this

/-- What is printed for a tag, unless it is that of a link. -/
def unlessLink (tag : String) (t : Text) : Text := if tag = "w:hyperlink" then [] else t

/-- A tag with which markup opens goes if it is that of a link, and stays otherwise. -/
theorem TagWithin.eraseLinkTags_open (hl : l.TellsLinks) (h : TagWithin l tag attributes)
    {close : Text} (hclose : ∀ c ∈ close, c ≠ '<' ∧ c ≠ '>') (rest : Text) :
    eraseLinkTags false ("<" ++ (printTag tag attributes ++ close) ++ (">" ++ rest))
      = unlessLink tag ("<" ++ (printTag tag attributes ++ close) ++ ">")
        ++ eraseLinkTags false rest := by
  unfold unlessLink
  split
  · rename_i htag
    subst htag
    have hstart : StartsLinkTag
        ("<" ++ (printTag "w:hyperlink" attributes ++ close) ++ (">" ++ rest)) := by
      have := h.startsLinkTag hl (close ++ (">" ++ rest))
      simpa only [List.append_assoc] using this
    -- the first `>` is the one at the end of the tag
    refine eraseLinkTags_erased hstart ?_
    rw [List.forall_mem_append]
    refine ⟨fun c hc => ?_, fun c hc => (hclose c hc).2⟩
    exact h.of_mem_printTag holdsInTags_ne_close hl.toNamed
      (fun t ht => absurd rfl (hl.verbatim _ t ht).1) hc
  · -- the tag is passed over as a whole, since no other tag can start inside of it
    rename_i htag
    have hstart : ¬StartsLinkTag
        ("<" ++ (printTag tag attributes ++ close ++ ">") ++ rest) := by
      have := h.not_startsLinkTag hl htag (close ++ (">" ++ rest))
      simpa only [List.append_assoc] using this
    have hkept : ∀ c ∈ printTag tag attributes ++ close ++ ">", c ≠ '<' := by
      rw [List.forall_mem_append, List.forall_mem_append]
      refine ⟨⟨fun c hc => ?_, fun c hc => (hclose c hc).1⟩, by decide⟩
      exact h.of_mem_printTag holdsInTags_ne_open hl.toNamed
        (fun t ht => (hl.verbatim _ t ht).2) hc
    have := eraseLinkTags_kept hstart hkept
    simpa only [List.append_assoc] using this

/-- A closing tag goes if it closes a link, and stays otherwise. -/
theorem TagWithin.eraseLinkTags_close (hl : l.TellsLinks) (h : TagWithin l tag attributes)
    (rest : Text) :
    eraseLinkTags false ("</" ++ Text.ofString tag ++ (">" ++ rest))
      = unlessLink tag ("</" ++ Text.ofString tag ++ ">") ++ eraseLinkTags false rest := by
  have hslash : Text.ofString "</" = Text.ofString "<" ++ Text.ofString "/" := rfl
  have hname : ∀ c ∈ Text.ofString tag, c.isPlain = true := fun c hc =>
    isPlain_of_mem_name (h.isName hl.toNamed) hc
  unfold unlessLink
  rw [hslash, List.append_assoc (Text.ofString "<")]
  split
  · rename_i htag
    subst htag
    exact eraseLinkTags_erased (Or.inr ⟨rest, rfl⟩) (by decide)
  · rename_i htag
    -- the closing tag of another element is kept up to its end
    have hstart := not_startsLinkTag_close (h.apart hl htag).1 rest
    have hkept : ∀ c ∈ Text.ofString "/" ++ Text.ofString tag, c ≠ '<' := by
      rw [List.forall_mem_append]
      exact ⟨by decide, fun c hc => holdsInTags_ne_open.plain c (hname c hc)⟩
    have hrest : ∀ c ∈ Text.ofString ">", c ≠ '<' := by decide
    rw [eraseLinkTags_kept hstart hkept, eraseLinkTags_append hrest]
    simp only [List.append_assoc]

/-- What holds of each piece, with anything after it, holds of the sequence. -/
theorem eraseLinkTags_printAll_of_forall {ms : List Markup}
    (h : ∀ m ∈ ms, ∀ rest, eraseLinkTags false (m.print ++ rest)
      = printAll m.unlink ++ eraseLinkTags false rest) (rest : Text) :
    eraseLinkTags false (printAll ms ++ rest)
      = printAll (unlinkAll ms) ++ eraseLinkTags false rest := by
  induction ms with
  | nil => rfl
  | cons m ms ih =>
    rw [printAll, List.append_assoc, h m List.mem_cons_self, unlinkAll, printAll_append,
      ih fun n hn => h n (List.mem_cons_of_mem m hn), List.append_assoc]

/-- Erasing the tags of links from the print of markup gives the print of the markup without its
links. The induction is on the markup; what follows it is arbitrary, since an element is followed by
its own closing tag. -/
theorem Within.eraseLinkTags_print (hl : l.TellsLinks) {m : Markup} (h : Within l m) (rest : Text) :
    eraseLinkTags false (m.print ++ rest) = printAll m.unlink ++ eraseLinkTags false rest := by
  induction h generalizing rest with
  | text t =>
    -- text is escaped, so it has no `<` that could start a tag
    rw [print, eraseLinkTags_append fun _ => ne_open_of_mem_escape, unlink, printAll, print, printAll, List.append_nil]
  | @empty tag attributes htag =>
    have hopen := htag.eraseLinkTags_open hl
      (by decide : ∀ c ∈ Text.ofString "/", c ≠ '<' ∧ c ≠ '>') rest
    have hslash : Text.ofString "/>" = Text.ofString "/" ++ Text.ofString ">" := rfl
    rw [print, unlink]
    simp only [hslash, List.append_assoc] at hopen ⊢
    rw [hopen]
    unfold unlessLink
    split
    · rfl
    · simp only [printAll, print, hslash, List.append_assoc, List.append_nil]
  | @element tag attributes children htag _ ih =>
    -- opening tag, content and closing tag one after another, each with the rest behind it
    have hopen := htag.eraseLinkTags_open hl (fun c hc => absurd hc (List.not_mem_nil))
      (printAll children ++ ("</" ++ Text.ofString tag ++ (">" ++ rest)))
    rw [eraseLinkTags_printAll_of_forall ih, htag.eraseLinkTags_close hl] at hopen
    rw [print, unlink]
    simp only [List.append_assoc, List.append_nil] at hopen ⊢
    rw [hopen]
    unfold unlessLink
    split
    · rfl
    · simp only [printAll, print, List.append_assoc, List.append_nil]

end Markup

end Wordsmith
