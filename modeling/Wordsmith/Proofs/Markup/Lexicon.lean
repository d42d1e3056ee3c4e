import Mathlib.Data.List.Basic
import Wordsmith.Proofs.Markup.Escape

/-!
# Markup over a lexicon

Each part of a package uses a fixed stock of tags and attributes, and writes its values in a few
ways. A `Lexicon` lists the stock, and `Markup.Within` says that a piece of markup keeps to it. What
is wanted of the printed text is then a matter of the lexicon:

* `Within.isDocument` — the print is derived by the grammar of markup texts, and stands for the
  `view` of the markup, provided that the names are names and that what is written verbatim could
  stand in a value.
* `Within.isForbidden_of_mem_print` — no forbidden code point is printed.
* `Within.name_mem` — all names of the view are in the lexicon.
-/

namespace Wordsmith

open Xml

/-! ## Lexicons

A lexicon is a list that can be decided: that its names are names (`Lexicon.Named`) is checked by
evaluation, once for each part. Values are open, so what may be written verbatim is a predicate. -/

/-- A code point that stands for itself wherever it is written. -/
def CodePoint.isPlain (c : CodePoint) : Bool :=
  !c.isForbidden && c ≠ '<' && c ≠ '>' && c ≠ '&' && c ≠ '"'

/-- The stock of tags of a part. -/
structure Lexicon where
  /-- The tags, each with the attributes that it may have, in order. -/
  tags : List (String × List String)
  /-- The values that a tag may hold just as they are, neither plain nor escaped. -/
  verbatim : String → Text → Prop

/-- All names of a lexicon, of tags and of attributes. -/
def Lexicon.names (l : Lexicon) : List Text :=
  l.tags.flatMap fun e => (e.1 :: e.2).map Text.ofString

/-- The names in the lexicon are names, and no tag has an attribute twice. -/
structure Lexicon.Named (l : Lexicon) : Prop where
  names : ∀ e ∈ l.tags, isName e.1 = true ∧ e.2.Nodup ∧ ∀ name ∈ e.2, isName name = true

/-- The lexicon is fit for documents: what is written verbatim could stand in a value too. -/
structure Lexicon.Legible (l : Lexicon) : Prop extends l.Named where
  verbatim : ∀ tag t, l.verbatim tag t → ∀ c ∈ t, c ≠ '<' ∧ c ≠ '&' ∧ c ≠ '"'

namespace Markup

/-! ## The tree of a markup

Markup holds values as they are written, and its `view` is the tree that the print is read as, with
references resolved. That these agree is `Within.isContent`. -/

/-- The name and the value of an attribute. -/
def attributeView (a : Attribute) : Text × Text := (a.name, a.written.unescape)

mutual

/-- What a piece of markup stands for once it is printed. -/
def view : Markup → List Xml
  | .text written => written.unescape.map .character
  | .empty tag attributes => [.element tag (attributes.map attributeView) []]
  | .element tag attributes children =>
    [.element tag (attributes.map attributeView) (viewAll children)]

/-- What a sequence of markup stands for. -/
def viewAll : List Markup → List Xml
  | [] => []
  | m :: ms => view m ++ viewAll ms

end

@[simp] theorem viewAll_append (ms ns : List Markup) :
    viewAll (ms ++ ns) = viewAll ms ++ viewAll ns := by
  induction ms with
  | nil => rfl
  | cons m ms ih => rw [List.cons_append, viewAll, ih, viewAll, List.append_assoc]

@[simp] theorem printAll_append (ms ns : List Markup) :
    printAll (ms ++ ns) = printAll ms ++ printAll ns := by
  induction ms with
  | nil => rfl
  | cons m ms ih => rw [List.cons_append, printAll, ih, printAll, List.append_assoc]

/-- An element with an escaped text in it has that text. -/
theorem text_element_escape (tag : Text) (attributes : List (Text × Text)) (t : Text) :
    (Xml.element tag attributes (viewAll [.text t.escape])).text = t := by
  unfold Xml.text content
  rw [viewAll, view, Text.unescape_escape, viewAll, List.append_nil, List.filterMap_map]
  exact List.filterMap_some

/-! ## Values

Three ways to write a value are enough for all parts. Code points of the first two mean nothing but
themselves, or stand in references; of the third something has to be assumed. -/

/-- The ways to write a value: with plain code points, escaped, or as it is. -/
inductive Written (verbatim : Text → Prop) : Text → Prop where
  | plain {t : Text} (h : ∀ c ∈ t, c.isPlain = true) : Written verbatim t
  | escaped (t : Text) : Written verbatim t.strip.escape
  | verbatim {t : Text} (h : verbatim t) : Written verbatim t

variable {verbatim : Text → Prop}

/-- A literal of plain code points. -/
theorem Written.ofString {s : String} (h : (Text.ofString s).all CodePoint.isPlain = true) :
    Written verbatim (Text.ofString s) :=
  .plain (List.all_eq_true.mp h)

/-- What may stand in a name has no meaning of its own. -/
theorem isPlain_of_isNameChar {c : CodePoint} (h : c.isNameChar = true) : c.isPlain = true := by
  simp [CodePoint.isNameChar, CodePoint.isNameStart, CodePoint.isLetter, CodePoint.isUpper,
    CodePoint.isDigit, CodePoint.isBetween, CodePoint.eq_ofChar_iff] at h
  simp [CodePoint.isPlain, CodePoint.isForbidden, CodePoint.eq_ofChar_iff]
  omega

/-- A digit is such a code point. -/
theorem isPlain_of_isDigit {c : CodePoint} (h : c.isDigit = true) : c.isPlain = true :=
  isPlain_of_isNameChar (by simp [CodePoint.isNameChar, h])

/-- So numerals are plain. -/
theorem isPlain_of_mem_ofNat {n : Nat} {c : CodePoint} (h : c ∈ Text.ofNat n) :
    c.isPlain = true :=
  isPlain_of_isDigit (Text.isDigit_of_mem_ofNat h)

/-- Numerals with a sign are plain, too. -/
theorem isPlain_of_mem_ofInt {n : Int} {c : CodePoint} (h : c ∈ Text.ofInt n) :
    c.isPlain = true := by
  rcases Text.isDigit_or_hyphen_of_mem_ofInt h with hdigit | rfl
  · exact isPlain_of_isDigit hdigit
  · decide

/-- An integer is a plain value. -/
theorem Written.ofInt (n : Int) : Written verbatim (.ofInt n) :=
  .plain fun _ hc => isPlain_of_mem_ofInt hc

/-- What may be written stays so if more may be written verbatim. -/
theorem Written.mono {verbatim' : Text → Prop} {t : Text} (h : Written verbatim t)
    (hverbatim : ∀ t, verbatim t → verbatim' t) : Written verbatim' t := by
  cases h with
  | plain h => exact .plain h
  | escaped t => exact .escaped t
  | verbatim h => exact .verbatim (hverbatim t h)

/-- A text in which nothing has a meaning of its own shows itself. -/
theorem isValue_self {stop : CodePoint} {t : Text}
    (h : ∀ c ∈ t, c ≠ '<' ∧ c ≠ '&' ∧ c ≠ stop) : IsValue stop t t := by
  induction t with
  | nil => exact .nil
  | cons c t ih =>
    obtain ⟨hlt, hamp, hstop⟩ := h c List.mem_cons_self
    exact .cons (.plain c hlt hamp hstop) (ih fun d hd => h d (List.mem_cons_of_mem c hd))

/-- A text without references is read as it stands. -/
theorem unescape_self {t : Text} (h : ∀ c ∈ t, c ≠ '<' ∧ c ≠ '&' ∧ c ≠ '"') : t.unescape = t :=
  Text.unescape_of_isValue (isValue_self h)

/-- A plain code point is none of those that end a value or start a reference. -/
theorem ne_of_isPlain {c : CodePoint} (h : c.isPlain = true) : c ≠ '<' ∧ c ≠ '&' ∧ c ≠ '"' := by
  simp only [CodePoint.isPlain, Bool.and_eq_true, decide_eq_true_eq] at h
  exact ⟨h.1.1.1.2, h.1.2, h.2⟩

/-- So plain texts are read as they stand. -/
theorem unescape_of_isPlain {t : Text} (h : ∀ c ∈ t, c.isPlain = true) : t.unescape = t :=
  unescape_self fun c hc => ne_of_isPlain (h c hc)

/-- A numeral stands for itself in a value. -/
@[simp] theorem unescape_ofInt (n : Int) : (Text.ofInt n).unescape = .ofInt n :=
  unescape_of_isPlain fun _ hc => isPlain_of_mem_ofInt hc

/-- A value shows what it reads as, if what is written verbatim could stand in a value. -/
theorem Written.isValue (hverbatim : ∀ t, verbatim t → ∀ c ∈ t, c ≠ '<' ∧ c ≠ '&' ∧ c ≠ '"')
    {t : Text} (h : Written verbatim t) : IsValue '"' t t.unescape := by
  cases h with
  | plain h =>
    rw [unescape_of_isPlain h]
    exact isValue_self fun c hc => ne_of_isPlain (h c hc)
  | escaped t =>
    rw [Text.unescape_escape]
    exact Text.isValue_escape (Or.inr rfl) t.strip
  | verbatim h =>
    rw [unescape_self (hverbatim t h)]
    exact isValue_self (hverbatim t h)

/-- What holds of the code points with no meaning of their own, of the ampersand and of the
quotation mark: apart from verbatim values, a tag is printed with no others. -/
structure HoldsInTags (P : CodePoint → Prop) : Prop where
  plain : ∀ c, c.isPlain = true → P c
  ampersand : P '&'
  quote : P '"'

/-- Neither a plain code point nor the other two are forbidden. -/
theorem holdsInTags_isForbidden : HoldsInTags fun c => c.isForbidden = false where
  plain := by
    intro c h
    simp only [CodePoint.isPlain, Bool.and_eq_true, Bool.not_eq_true'] at h
    exact h.1.1.1.1
  ampersand := by decide
  quote := by decide

/-- No tag starts inside of a tag. -/
theorem holdsInTags_ne_open : HoldsInTags fun c => c ≠ '<' where
  plain := by
    rintro c h rfl
    exact absurd h (by decide)
  ampersand := by decide
  quote := by decide

/-- No tag ends before its end. -/
theorem holdsInTags_ne_close : HoldsInTags fun c => c ≠ '>' where
  plain := by
    rintro c h rfl
    exact absurd h (by decide)
  ampersand := by decide
  quote := by decide

/-- All code points of an escaped text are plain, apart from the ampersand. -/
theorem isPlain_of_mem_escape {t : Text} {c : CodePoint} (hc : c ∈ t.strip.escape) :
    c.isPlain = true ∨ c = '&' := by
  rcases Text.mem_escape hc with ⟨hmem, hspecial⟩ | hreference
  · simp only [List.mem_cons, not_or] at hspecial
    obtain ⟨hlt, hgt, hamp, hquot, -⟩ := hspecial
    left
    simp [CodePoint.isPlain, Text.isForbidden_of_mem_strip hmem, hlt, hgt, hamp, hquot]
  · exact (by decide : ∀ c ∈ Text.ofString "&;ampltgquos", c.isPlain = true ∨ c = '&') c hreference

/-- No tag starts inside of a text. -/
theorem ne_open_of_mem_escape {t : Text} {c : CodePoint} (hc : c ∈ t.strip.escape) : c ≠ '<' := by
  rcases isPlain_of_mem_escape hc with hplain | rfl
  · exact holdsInTags_ne_open.plain c hplain
  · decide

/-- What holds in tags holds of each code point of a value. -/
theorem Written.of_mem {P : CodePoint → Prop} (hP : HoldsInTags P)
    (hverbatim : ∀ t, verbatim t → ∀ c ∈ t, P c) {t : Text} (h : Written verbatim t)
    {c : CodePoint} (hc : c ∈ t) : P c := by
  cases h with
  | plain h => exact hP.plain c (h c hc)
  | escaped t =>
    rcases isPlain_of_mem_escape hc with hplain | rfl
    · exact hP.plain c hplain
    · exact hP.ampersand
  | verbatim h => exact hverbatim t h c hc

/-! ## Markup within a lexicon

`Within` follows the three forms of markup. A writer proves it once for what it writes, and everything
after that is a matter of the lexicon. -/

/-- A tag of the lexicon with the attributes that it has there. -/
structure TagWithin (l : Lexicon) (tag : String) (attributes : List Attribute) : Prop where
  known : (tag, attributes.map (·.name)) ∈ l.tags
  written : ∀ a ∈ attributes, Written (l.verbatim tag) a.written

/-- The markup has only tags of the lexicon, and its text is escaped. -/
inductive Within (l : Lexicon) : Markup → Prop where
  | text (t : Text) : Within l (.text t.strip.escape)
  | empty {tag : String} {attributes : List Attribute} (htag : TagWithin l tag attributes) :
      Within l (.empty tag attributes)
  | element {tag : String} {attributes : List Attribute} {children : List Markup}
      (htag : TagWithin l tag attributes) (hchildren : ∀ m ∈ children, Within l m) :
      Within l (.element tag attributes children)

variable {l : Lexicon} {m : Markup} {ms : List Markup} {tag : String} {attributes : List Attribute}

/-! Emitters list the attributes and the children of an element one by one, so these are stated
with `List.Forall`, which is a conjunction over such a list. -/

/-- A tag with its attributes, listed one by one. -/
theorem TagWithin.of_mem (hmem : (tag, attributes.map (·.name)) ∈ l.tags)
    (hwritten : attributes.Forall fun a => Written (l.verbatim tag) a.written) :
    TagWithin l tag attributes :=
  ⟨hmem, List.forall_iff_forall_mem.mp hwritten⟩

/-- A tag with fixed values only. -/
theorem TagWithin.fixed (values : List (String × String)) (hmem : (tag, values.map (·.1)) ∈ l.tags)
    (hplain : ∀ v ∈ values, (Text.ofString v.2).all CodePoint.isPlain = true) :
    TagWithin l tag (values.map fun v => .fixed v.1 v.2) := by
  refine ⟨?_, ?_⟩
  · rw [List.map_map]
    exact hmem
  · intro a ha
    obtain ⟨v, hv, rfl⟩ := List.mem_map.mp ha
    exact .ofString (hplain v hv)

/-- A tag without attributes. -/
theorem TagWithin.bare (hmem : (tag, []) ∈ l.tags) : TagWithin l tag [] :=
  .of_mem hmem trivial

/-- An element with its children, listed one by one. -/
theorem Within.node (htag : TagWithin l tag attributes) {children : List Markup}
    (hchildren : children.Forall (Within l)) : Within l (.element tag attributes children) :=
  .element htag (List.forall_iff_forall_mem.mp hchildren)

/-- Markup within a lexicon keeps to any lexicon that has all of it. -/
theorem Within.mono {l' : Lexicon} (h : Within l m) (htags : ∀ e ∈ l.tags, e ∈ l'.tags)
    (hverbatim : ∀ tag t, l.verbatim tag t → l'.verbatim tag t) : Within l' m := by
  have hwithin : ∀ {tag attributes}, TagWithin l tag attributes →
      TagWithin l' tag attributes := by
    intro tag attributes htag
    exact ⟨htags _ htag.known, fun a ha => (htag.written a ha).mono (hverbatim tag)⟩
  induction h with
  | text t => exact .text t
  | empty htag => exact .empty (hwithin htag)
  | element htag _ ih => exact .element (hwithin htag) ih

/-! ## The print of markup within a lexicon

The grammar derives the print: each tag by `TagWithin.areAttributes`, each text by `isContent_text`,
and the whole by induction on the markup. -/

/-- The name of a tag is a name. -/
theorem TagWithin.isName (hl : l.Named) (h : TagWithin l tag attributes) :
    Xml.isName tag = true :=
  (hl.names _ h.known).1

/-- So are those of its attributes. -/
theorem TagWithin.isName_attribute (hl : l.Named) (h : TagWithin l tag attributes) {a : Attribute}
    (ha : a ∈ attributes) : Xml.isName a.name = true :=
  (hl.names _ h.known).2.2 a.name (List.mem_map_of_mem ha)

/-- The attributes of a tag are printed as attributes of the grammar. -/
theorem TagWithin.areAttributes (hl : l.Legible) (h : TagWithin l tag attributes) :
    AreAttributes (attributes.flatMap Attribute.print) (attributes.map attributeView) := by
  have hnodup : (attributes.map (·.name)).Nodup := (hl.names _ h.known).2.1
  have hname : ∀ a ∈ attributes, Xml.isName a.name = true := fun a ha =>
    h.isName_attribute hl.toNamed ha
  have hwritten := h.written
  clear h
  induction attributes with
  | nil => exact .nil
  | cons a as ih =>
    rw [List.map_cons, List.nodup_cons] at hnodup
    refine .cons (hname a List.mem_cons_self)
      ((hwritten a List.mem_cons_self).isValue (hl.verbatim tag)) ?_
      (ih hnodup.2 (fun b hb => hname b (List.mem_cons_of_mem a hb))
        (fun b hb => hwritten b (List.mem_cons_of_mem a hb)))
    -- the grammar tells names apart as texts, the lexicon as strings
    intro b hb heq
    obtain ⟨d, hd, rfl⟩ := List.mem_map.mp hb
    rw [← Text.ofString_inj.mp heq] at hnodup
    exact hnodup.1 (List.mem_map_of_mem hd)

/-- An escaped text is content, character by character. -/
theorem isContent_text (t : Text) {rest : Text} {xs : List Xml} (hrest : IsContent rest xs) :
    IsContent (t.escape ++ rest) (t.map .character ++ xs) := by
  induction t with
  | nil => exact hrest
  | cons c t ih =>
    rw [Text.escape_cons, List.append_assoc]
    exact .character (Text.isCharacter_escape (Or.inl rfl) c) ih

/-- What holds of each piece with anything behind it holds of the sequence. -/
theorem isContent_printAll_of_forall
    (h : ∀ m ∈ ms, ∀ rest xs, IsContent rest xs → IsContent (m.print ++ rest) (m.view ++ xs))
    {rest : Text} {xs : List Xml} (hrest : IsContent rest xs) :
    IsContent (printAll ms ++ rest) (viewAll ms ++ xs) := by
  induction ms with
  | nil => exact hrest
  | cons m ms ih =>
    rw [printAll, viewAll, List.append_assoc, List.append_assoc]
    exact h m List.mem_cons_self _ _ (ih fun n hn => h n (List.mem_cons_of_mem m hn))

/-- Printed markup is content that stands for the view of the markup. The induction is on the
markup; what follows is arbitrary, since the grammar derives content from its end. -/
theorem Within.isContent (hl : l.Legible) (h : Within l m) {rest : Text} {xs : List Xml}
    (hrest : IsContent rest xs) : IsContent (m.print ++ rest) (m.view ++ xs) := by
  induction h generalizing rest xs with
  | text t =>
    rw [print, view, Text.unescape_escape]
    exact isContent_text t.strip hrest
  | empty htag =>
    have hcontent := IsContent.empty (htag.isName hl.toNamed) (htag.areAttributes hl) hrest
    simpa only [print, view, printTag, List.append_assoc, List.singleton_append] using hcontent
  | element htag _ ih =>
    have hchildren := isContent_printAll_of_forall (fun n hn rest xs => ih n hn) IsContent.nil
    have hcontent := IsContent.element (htag.isName hl.toNamed) (htag.areAttributes hl) hchildren
      hrest
    simpa only [print, view, printTag, List.append_assoc, List.append_nil, List.singleton_append]
      using hcontent

/-- A root element is printed as a document. -/
theorem Within.isDocument (hl : l.Legible) {children : List Markup}
    (h : Within l (.element tag attributes children)) :
    IsDocument (Vocabulary.print (.element tag attributes children))
      (.element tag (attributes.map attributeView) (viewAll children)) := by
  have hcontent := h.isContent hl IsContent.nil
  rw [List.append_nil, List.append_nil] at hcontent
  exact .mk hcontent

/-! ## Code points

Outside of text and verbatim values only plain code points are printed, apart from brackets, quotation
marks and ampersands. -/

/-- Names are plain. -/
theorem isPlain_of_mem_name {name : String} (h : isName name = true) {c : CodePoint}
    (hc : c ∈ Text.ofString name) : c.isPlain = true :=
  isPlain_of_isNameChar (Reader.isNameChar_of_mem h c hc)

/-- What is printed between the brackets of a tag. -/
theorem TagWithin.of_mem_printTag {P : CodePoint → Prop} (hP : HoldsInTags P) (hl : l.Named)
    (hverbatim : ∀ t, l.verbatim tag t → ∀ c ∈ t, P c) (h : TagWithin l tag attributes)
    {c : CodePoint} (hc : c ∈ printTag tag attributes) : P c := by
  rcases List.mem_append.mp hc with htag | hattrs
  · exact hP.plain c (isPlain_of_mem_name (h.isName hl) htag)
  · obtain ⟨a, ha, hc⟩ := List.mem_flatMap.mp hattrs
    simp only [Attribute.print, List.mem_append] at hc
    -- an attribute: a blank, the name, an equals sign and a quote, the value, a quote
    rcases hc with (((hspace | hname) | hequals) | hvalue) | hquote
    · exact hP.plain c ((by decide : ∀ c ∈ Text.ofString " ", c.isPlain = true) c hspace)
    · exact hP.plain c (isPlain_of_mem_name (h.isName_attribute hl ha) hname)
    · rcases (by decide : ∀ c ∈ Text.ofString "=\"", c.isPlain = true ∨ c = '"') c hequals
        with hplain | rfl
      · exact hP.plain c hplain
      · exact hP.quote
    · exact (h.written a ha).of_mem hP hverbatim hvalue
    · rw [List.mem_singleton.mp hquote]
      exact hP.quote

/-- A code point of a print is one of a piece. -/
theorem mem_printAll {c : CodePoint} (h : c ∈ printAll ms) : ∃ m ∈ ms, c ∈ m.print := by
  induction ms with
  | nil => exact absurd h List.not_mem_nil
  | cons m ms ih =>
    rcases List.mem_append.mp h with hm | hms
    · exact ⟨m, List.mem_cons_self, hm⟩
    · obtain ⟨n, hn, hc⟩ := ih hms
      exact ⟨n, List.mem_cons_of_mem m hn, hc⟩

/-- No forbidden code point is printed, if no verbatim value holds one. -/
theorem Within.isForbidden_of_mem_print (hl : l.Named)
    (hverbatim : ∀ tag t, l.verbatim tag t → ∀ c ∈ t, c.isForbidden = false)
    (h : Within l m) {c : CodePoint} (hc : c ∈ m.print) : c.isForbidden = false := by
  have hP := holdsInTags_isForbidden
  have hbracket : ∀ s ∈ ["<", ">", "</", "/>"], ∀ c ∈ Text.ofString s, c.isForbidden = false := by
    decide
  induction h with
  | text t =>
    have hwritten : Written (fun _ => False) t.strip.escape := .escaped t
    exact hwritten.of_mem hP nofun hc
  | empty htag =>
    simp only [print, List.mem_append] at hc
    -- the brackets, or the tag between them
    rcases hc with (hopen | htag') | hclose
    · exact hbracket "<" (by decide) c hopen
    · exact htag.of_mem_printTag hP hl (hverbatim _) htag'
    · exact hbracket "/>" (by decide) c hclose
  | element htag _ ih =>
    simp only [print, List.mem_append] at hc
    -- the opening tag, the children, and the closing tag, which holds the name once more
    rcases hc with (((((hopen | htag') | hend) | hchildren) | hopen) | hname) | hend
    · exact hbracket "<" (by decide) c hopen
    · exact htag.of_mem_printTag hP hl (hverbatim _) htag'
    · exact hbracket ">" (by decide) c hend
    · obtain ⟨n, hn, hc⟩ := mem_printAll hchildren
      exact ih n hn hc
    · exact hbracket "</" (by decide) c hopen
    · exact hP.plain c (isPlain_of_mem_name (htag.isName hl) hname)
    · exact hbracket ">" (by decide) c hend

/-! ## Names

The prefixes of a part have to be declared, and this can be decided on the names of the lexicon if
there are no others in the part. -/

/-- A name in a sequence is one of a piece. -/
theorem mem_namesAll_viewAll {name : Text} (h : name ∈ namesAll (viewAll ms)) :
    ∃ m ∈ ms, name ∈ namesAll m.view := by
  induction ms with
  | nil => exact absurd h List.not_mem_nil
  | cons m ms ih =>
    rw [viewAll, namesAll_append] at h
    rcases List.mem_append.mp h with hm | hms
    · exact ⟨m, List.mem_cons_self, hm⟩
    · obtain ⟨n, hn, hname⟩ := ih hms
      exact ⟨n, List.mem_cons_of_mem m hn, hname⟩

/-- The names in a tag are those of the lexicon. -/
theorem TagWithin.name_mem (h : TagWithin l tag attributes) {name : Text}
    (hname : name ∈ Text.ofString tag :: (attributes.map attributeView).map (·.1)) :
    name ∈ l.names := by
  refine List.mem_flatMap.mpr ⟨_, h.known, ?_⟩
  rcases List.mem_cons.mp hname with rfl | hname
  · exact List.mem_map_of_mem List.mem_cons_self
  · rw [List.map_map] at hname
    obtain ⟨a, ha, rfl⟩ := List.mem_map.mp hname
    exact List.mem_map_of_mem (List.mem_cons_of_mem _ (List.mem_map_of_mem ha))

/-- The names of a view are those of the lexicon. -/
theorem Within.name_mem (h : Within l m) {name : Text} (hname : name ∈ namesAll m.view) :
    name ∈ l.names := by
  induction h with
  | text t =>
    rw [view, namesAll_characters] at hname
    exact absurd hname List.not_mem_nil
  | empty htag =>
    simp only [view, namesAll, names, List.append_nil] at hname
    exact htag.name_mem hname
  | element htag _ ih =>
    simp only [view, namesAll, names, List.append_nil] at hname
    rcases List.mem_append.mp hname with hname | hname
    · exact htag.name_mem hname
    · obtain ⟨n, hn, hname⟩ := mem_namesAll_viewAll hname
      exact ih n hn hname

/-! ## Tags

What a print holds under a tag can be told from the markup, element by element. -/

/-- The elements with a tag that a sequence of markup stands for, in document order. -/
def find (tag : String) (ms : List Markup) : List Xml := taggedAll tag (viewAll ms)

@[simp] theorem find_nil (tag : String) : find tag [] = [] := rfl

@[simp] theorem find_append (tag : String) (ms ns : List Markup) :
    find tag (ms ++ ns) = find tag ms ++ find tag ns := by
  unfold find
  rw [viewAll_append, taggedAll_append]

/-- The first piece of a sequence, and the rest. -/
theorem find_cons (tag : String) (m : Markup) (ms : List Markup) :
    find tag (m :: ms) = find tag [m] ++ find tag ms :=
  find_append tag [m] ms

/-- Markup that is written in pieces. -/
theorem find_flatMap {α : Type} (tag : String) (f : α → List Markup) (xs : List α) :
    find tag (xs.flatMap f) = xs.flatMap fun x => find tag (f x) := by
  induction xs with
  | nil => rfl
  | cons x xs ih => rw [List.flatMap_cons, find_append, ih, List.flatMap_cons]

/-- The same of single elements. -/
theorem find_map {α : Type} (tag : String) (f : α → Markup) (xs : List α) :
    find tag (xs.map f) = xs.flatMap fun x => find tag [f x] := by
  rw [List.map_eq_flatMap, find_flatMap]

/-- What is found in no piece is not found. -/
theorem find_eq_nil {tag : String} (h : ∀ m ∈ ms, find tag [m] = []) : find tag ms = [] := by
  induction ms with
  | nil => rfl
  | cons m ms ih =>
    rw [find_cons, h m List.mem_cons_self, ih fun n hn => h n (List.mem_cons_of_mem m hn)]
    rfl

/-- A text holds no elements. -/
@[simp] theorem find_text (tag : String) (t : Text) : find tag [.text t] = [] := by
  unfold find
  rw [viewAll, view, viewAll, List.append_nil, taggedAll_characters]

/-- An element with another tag is passed through. -/
theorem find_element_of_ne {t tag : String} (h : t ≠ tag) :
    find tag [.element t attributes ms] = find tag ms := by
  have hne : Text.ofString t ≠ Text.ofString tag := fun heq => h (Text.ofString_inj.mp heq)
  unfold find
  rw [viewAll, view, viewAll, List.append_nil, taggedAll, tagged, if_neg hne, taggedAll]
  simp

/-- Nothing is found under an empty tag of another name. -/
theorem find_empty_of_ne {t tag : String} (h : t ≠ tag) :
    find tag [.empty t attributes] = [] := by
  have hne : Text.ofString t ≠ Text.ofString tag := fun heq => h (Text.ofString_inj.mp heq)
  unfold find
  rw [viewAll, view, viewAll, List.append_nil, taggedAll, tagged, if_neg hne, taggedAll]
  rfl

/-- An empty tag of this name is found as an element without content. -/
theorem find_empty_self (tag : String) :
    find tag [.empty tag attributes] = [.element tag (attributes.map attributeView) []] := by
  unfold find
  rw [viewAll, view, viewAll, List.append_nil, taggedAll, tagged, if_pos rfl, taggedAll]
  rfl

/-- An element with the tag stands before those in its content. -/
theorem find_element_self (tag : String) :
    find tag [.element tag attributes ms]
      = .element tag (attributes.map attributeView) (viewAll ms) :: find tag ms := by
  unfold find
  rw [viewAll, view, viewAll, List.append_nil, taggedAll, tagged, if_pos rfl, taggedAll]
  simp

/-- A printed document reads as a tree that holds what is found in the markup. -/
theorem Within.exists_read? (hl : l.Legible) (h : Within l (.element tag attributes ms)) :
    ∃ root, read? (Vocabulary.print (.element tag attributes ms)) = some root ∧
      ∀ t, root.tagged t = find t [.element tag attributes ms] := by
  refine ⟨_, read?_of_isDocument (h.isDocument hl), fun t => ?_⟩
  unfold find
  rw [viewAll, view, viewAll, List.append_nil, taggedAll, taggedAll, List.append_nil]

/-- A tag that is not in the lexicon is not found. -/
theorem Within.find_eq_nil (h : Within l m) {tag : String} (hnew : ∀ e ∈ l.tags, e.1 ≠ tag) :
    find tag [m] = [] := by
  have hne : ∀ {t attributes}, TagWithin l t attributes → t ≠ tag := by
    intro t attributes htag
    exact hnew _ htag.known
  induction h with
  | text t => exact find_text tag _
  | empty htag => exact find_empty_of_ne (hne htag)
  | element htag _ ih =>
    rw [find_element_of_ne (hne htag)]
    exact Markup.find_eq_nil ih

end Markup

end Wordsmith
