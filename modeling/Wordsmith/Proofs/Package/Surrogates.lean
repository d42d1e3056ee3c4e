import Wordsmith.Proofs.Package.Archive
import Wordsmith.Proofs.Package.EncodableBody
import Wordsmith.Proofs.Package.EncodableStyles
import Wordsmith.Proofs.Package.StyleLexicon

/-!
# Why a document has no package

A surrogate cannot be encoded, so a document has no package if a surrogate is in one of the texts
that are written. Which texts these are is listed part by part: link targets in the relationships,
texts of the elements in the document part, names and colours in the styles. What is stored with an
element but not written, like the language of code, does no harm.

* `Style.relationshipTexts`, `Style.documentTexts`, `Style.styleTexts` — the texts of the three parts
  that depend on the document.
* `Style.isEncodable_document` and its companions — a part can be encoded exactly if its texts can.
* `Style.package_eq_error_iff` — when there is no package, and which part is blamed.

The other four parts are fixed, and the parts are encoded in the order of `Part.all`, so the blame
falls on the first part with a surrogate.
-/

namespace Wordsmith

open Markup

/-! ## The texts that are written

The lists below follow what the writers do: a target is written into the relationships or behind its
link, depending on the mode, and the colour of links only if there is a link. -/

/-- Some code point of the text is a surrogate. -/
def Text.HasSurrogate (t : Text) : Prop := ∃ c ∈ t, c.isSurrogate = true

instance (t : Text) : Decidable t.HasSurrogate :=
  inferInstanceAs (Decidable (∃ c ∈ t, c.isSurrogate = true))

/-- The texts of the elements that are written: those of headings, runs and code blocks, and the
words for images. -/
def Element.allTexts (es : List Element) : List Text :=
  (Element.allPieces es).flatMap Piece.texts ++ Element.allAltTexts es

namespace Style

variable (s : Style)

/-- The texts that stand in the relationships: the targets of hyperlinks. -/
def relationshipTexts (es : List Element) : List Text :=
  if s.linkMode = .hyperlink then Element.allLinks es else []

/-- The texts that stand in the document part: those of the elements, link targets if they are
shown, and the colour of links if there is a link. -/
def documentTexts (es : List Element) : List Text :=
  Element.allTexts es ++ (if s.linkMode = .inlineUrl then Element.allLinks es else []) ++
    (if Element.allLinks es ≠ [] then [s.linkColor] else [])

/-- The texts that stand in the styles: names and colours of fonts, the background of code, and the
colours of borders. -/
def styleTexts : List Text :=
  s.fonts.flatMap (fun font => [font.name, font.color]) ++
    [s.codeBlocks.background] ++ s.borderSides.map (·.color)

/-- All texts that are written somewhere, part by part. -/
def writtenTexts (es : List Element) : List Text :=
  s.relationshipTexts es ++ s.documentTexts es ++ s.styleTexts

/-- The part that is blamed for a surrogate: the first one that it stands in. -/
def blamedPart (es : List Element) : Part :=
  if ∃ t ∈ s.relationshipTexts es, t.HasSurrogate then .documentRelationships
  else if ∃ t ∈ s.documentTexts es, t.HasSurrogate then .document
  else .styles

end Style

/-! ## The parts one by one

Each part is judged by the lemmas on its markup. What these say about elements and styles is brought
into the form of a list of texts here. -/

namespace Style

variable (s : Style)

/-- Texts that are written on a condition count only under the condition. -/
theorem forall_mem_if {c : Prop} [Decidable c] {ts : List Text} {P : Text → Prop} :
    (∀ t ∈ (if c then ts else []), P t) ↔ (c → ∀ t ∈ ts, P t) := by
  split
  · rename_i h
    exact ⟨fun hts _ => hts, fun hts => hts h⟩
  · rename_i h
    exact ⟨fun _ hc => absurd hc h, fun _ => nofun⟩

/-- The document part can be encoded exactly if its texts can. -/
theorem isEncodable_document (es : List Element) :
    (s.partText es .document).IsEncodable ↔ ∀ t ∈ s.documentTexts es, t.IsEncodable := by
  have helements := allEncodable_elements (s.bodyPolicy (Element.allLinks es))
    (fun _ hstyle => absurd hstyle (Option.not_mem_none _)) 1 es
  -- the frame of the document and the section are fixed or numbers
  have hbody : (s.partText es .document).IsEncodable
      ↔ AllEncodable (Element.allMarkup (s.bodyPolicy (Element.allLinks es)) none 1 es) := by
    unfold partText partMarkup documentMarkup sectionMarkup
    rw [Markup.isEncodable_document, isEncodable_print_element, List.forall_mem_singleton,
      isEncodable_bare, allEncodable_append]
    simp
  rw [allEncodable_pieces, ← Element.allLinks_eq] at helements
  unfold documentTexts Element.allTexts
  rw [hbody, helements, List.forall_mem_append, List.forall_mem_append, List.forall_mem_append,
    forall_mem_if, forall_mem_if, List.forall_mem_singleton]
  show (_ ∧ (_ → s.linkColor.IsEncodable) ∧ (s.linkMode = _ → _)) ∧ _ ↔ _
  tauto

/-- The relationships can be encoded exactly if the targets of hyperlinks can. -/
theorem isEncodable_relationships (es : List Element) :
    (s.partText es .documentRelationships).IsEncodable
      ↔ ∀ t ∈ s.relationshipTexts es, t.IsEncodable := by
  -- the table has the targets without repetitions, or none outside of hyperlink mode
  have htargets : ∀ t, t ∈ (s.linkPolicy (Element.allLinks es)).table.targets
      ↔ t ∈ s.relationshipTexts es := by
    intro t
    unfold linkPolicy LinkTable.ofLinks relationshipTexts
    dsimp only
    split
    · exact List.mem_eraseDups
    · exact Iff.rfl
  unfold partText partMarkup
  rw [Markup.isEncodable_document, LinkTable.isEncodable_relationships]
  simp only [htargets]

end Style

/-- The styles can be encoded exactly if their names and colours can. -/
theorem Style.isEncodable_styles (s : Style) (es : List Element) :
    (s.partText es .styles).IsEncodable ↔ ∀ t ∈ s.styleTexts, t.IsEncodable := by
  have hfonts : ∀ fonts : List Font, (∀ t ∈ fonts.flatMap (fun font => [font.name, font.color]),
      t.IsEncodable) ↔ ∀ font ∈ fonts, font.IsEncodable := by
    intro fonts
    rw [List.forall_mem_flatMap]
    simp [Font.IsEncodable]
  -- the sides are those of three borders
  have hborders : (∀ side ∈ s.borderSides, side.color.IsEncodable)
      ↔ s.codeBlocks.border.IsEncodable ∧ s.quotes.border.IsEncodable ∧
        s.tables.border.IsEncodable := by
    unfold borderSides
    rw [List.forall_mem_flatMap]
    simp [Border.IsEncodable]
  unfold partText partMarkup styleTexts fonts
  rw [Markup.isEncodable_document, markup_eq, isEncodable_element, List.forall_mem_append,
    List.forall_mem_append, hfonts, List.forall_mem_map, hborders]
  simp only [allEncodable_append, allEncodable_cons, HeadingStyles.allEncodable_markup,
    List.forall_mem_append, List.forall_mem_cons, Font.isEncodable_defaultsMarkup,
    ParagraphStyles.isEncodable_markup, CodeBlockStyle.isEncodable_markup,
    QuoteStyle.isEncodable_markup, ListStyle.allEncodable_markup, TableStyle.allEncodable_cellMarkup,
    TableStyle.isEncodable_markup, CodeBlockStyle.isEncodable_inlineMarkup, isEncodable_fixed,
    allEncodable_nil, List.not_mem_nil, IsEmpty.forall_iff, implies_true, and_true, true_and,
    and_assoc]
  -- the same facts in the order of the part and in that of the list
  constructor
  · rintro ⟨hdefault, hnormal, hlevels, hcodeBorder, hbackground, hcode, hquoteBorder, hquote,
      hbullet, hnumbered, hheader, hbody, htableBorder, -⟩
    exact ⟨hdefault, hnormal, hlevels, hcode, hquote, hbullet, hnumbered, hheader, hbody,
      hbackground, hcodeBorder, hquoteBorder, htableBorder⟩
  · rintro ⟨hdefault, hnormal, hlevels, hcode, hquote, hbullet, hnumbered, hheader, hbody,
      hbackground, hcodeBorder, hquoteBorder, htableBorder⟩
    exact ⟨hdefault, hnormal, hlevels, hcodeBorder, hbackground, hcode, hquoteBorder, hquote,
      hbullet, hnumbered, hheader, hbody, htableBorder, hcode⟩

/-! ## All parts

The parts are encoded one after the other, and the first failure is the result. -/

/-- A text can be encoded exactly if it has no surrogate. -/
theorem Text.isEncodable_iff_not_hasSurrogate {t : Text} : t.IsEncodable ↔ ¬t.HasSurrogate := by
  simp [IsEncodable, HasSurrogate]

/-- Some text has a surrogate exactly if not all can be encoded. -/
theorem Text.not_isEncodable_iff {ts : List Text} :
    (∃ t ∈ ts, t.HasSurrogate) ↔ ¬∀ t ∈ ts, t.IsEncodable := by
  simp [isEncodable_iff_not_hasSurrogate]

/-- A part whose text can be encoded has an entry. -/
theorem Part.exists_encode {t : Text} (h : t.IsEncodable) (part : Part) :
    ∃ entry, part.encode t = .ok entry := by
  refine ⟨⟨part.name, t.flatMap CodePoint.utf8⟩, ?_⟩
  unfold encode
  rw [Text.utf8?_of_isEncodable h]

/-- And one whose text cannot is reported. -/
theorem Part.encode_of_not {t : Text} (h : ¬t.IsEncodable) (part : Part) :
    part.encode t = .error (.encoding part) := by
  unfold encode
  split
  · rename_i data hdata
    exact absurd (Text.isEncodable_of_utf8? hdata) h
  · rfl

/-- A sequence of actions fails where the first of them fails. -/
theorem mapM_eq_error {α β ε : Type} {f : α → Except ε β} {before after : List α} {x : α} {e : ε}
    (hbefore : ∀ y ∈ before, ∃ z, f y = .ok z) (hx : f x = .error e) :
    (before ++ x :: after).mapM f = .error e := by
  induction before with
  | nil =>
    rw [List.nil_append, List.mapM_cons, hx]
    rfl
  | cons y ys ih =>
    obtain ⟨z, hz⟩ := hbefore y List.mem_cons_self
    rw [List.cons_append, List.mapM_cons, hz, ih fun w hw => hbefore w (List.mem_cons_of_mem y hw)]
    rfl

namespace Style

variable {s : Style} {es : List Element}

/-- The first part that cannot be encoded is reported, if those before it can. -/
theorem package_eq_error (before : List Part) {after : List Part} {part : Part}
    (hall : Part.all = before ++ part :: after)
    (hbefore : ∀ p ∈ before, (s.partText es p).IsEncodable)
    (hpart : ¬(s.partText es part).IsEncodable) :
    s.package es = .error (.encoding part) := by
  have hentries : s.entries es = .error (.encoding part) := by
    unfold entries parts
    rw [hall, List.map_append, List.map_cons]
    refine mapM_eq_error (fun entry hentry => ?_) (part.encode_of_not hpart)
    obtain ⟨p, hp, rfl⟩ := List.mem_map.mp hentry
    exact p.exists_encode (hbefore p hp)
  unfold package
  rw [hentries]
  rfl

/-- If a surrogate is written, the first part that it stands in is blamed. -/
theorem package_of_hasSurrogate (h : ∃ t ∈ s.writtenTexts es, t.HasSurrogate) :
    s.package es = .error (.encoding (s.blamedPart es)) := by
  have htypes : (s.partText es .contentTypes).IsEncodable := isEncodable_fixedPart _ (by decide)
  have hpackage : (s.partText es .packageRelationships).IsEncodable :=
    isEncodable_fixedPart _ (by decide)
  unfold blamedPart
  split
  · -- in the relationships, which come third, behind two fixed parts
    rename_i hrelationships
    rw [Text.not_isEncodable_iff, ← isEncodable_relationships] at hrelationships
    refine package_eq_error [.contentTypes, .packageRelationships] rfl ?_ hrelationships
    simp [htypes, hpackage]
  · rename_i hrelationships
    rw [Text.not_isEncodable_iff, not_not, ← isEncodable_relationships] at hrelationships
    split
    · rename_i hdocument
      rw [Text.not_isEncodable_iff, ← isEncodable_document] at hdocument
      refine package_eq_error
        [.contentTypes, .packageRelationships, .documentRelationships] rfl ?_ hdocument
      simp [htypes, hpackage, hrelationships]
    · rename_i hdocument
      rw [Text.not_isEncodable_iff, not_not, ← isEncodable_document] at hdocument
      -- the surrogate is somewhere, so it is in the styles if in neither of the others
      have hstyles : ¬(s.partText es .styles).IsEncodable := by
        intro hstyles
        rw [Text.not_isEncodable_iff, writtenTexts, List.forall_mem_append, List.forall_mem_append,
          ← isEncodable_relationships, ← isEncodable_document, ← s.isEncodable_styles es] at h
        exact h ⟨⟨hrelationships, hdocument⟩, hstyles⟩
      refine package_eq_error
        [.contentTypes, .packageRelationships, .documentRelationships, .document] rfl
        ?_ hstyles
      simp [htypes, hpackage, hrelationships, hdocument]

/-- Without a surrogate all parts are encoded, and the archive is made. -/
theorem exists_package_of_not (h : ¬∃ t ∈ s.writtenTexts es, t.HasSurrogate) :
    ∃ archive, s.package es = .ok archive := by
  -- nothing that is written holds a surrogate, so each part can be encoded
  have hwritten : ∀ t ∈ s.writtenTexts es, t.IsEncodable := by
    simpa [Text.not_isEncodable_iff] using h
  unfold writtenTexts at hwritten
  rw [List.forall_mem_append, List.forall_mem_append, ← isEncodable_relationships,
    ← isEncodable_document, ← s.isEncodable_styles es] at hwritten
  obtain ⟨⟨hrelationships, hdocument⟩, hstyles⟩ := hwritten
  apply exists_package
  intro part
  cases part with
  | document => exact hdocument
  | documentRelationships => exact hrelationships
  | styles => exact hstyles
  | contentTypes => exact isEncodable_fixedPart _ (by decide)
  | packageRelationships => exact isEncodable_fixedPart _ (by decide)
  | settings => exact isEncodable_fixedPart _ (by decide)
  | settingsRelationships => exact isEncodable_fixedPart _ (by decide)

/-- A document has no package exactly if a surrogate is in one of the texts that are written, and
then the first part is blamed that it stands in: the relationships, the document part, the
styles. -/
theorem package_eq_error_iff (s : Style) (es : List Element) (e : PackageError) :
    s.package es = .error e
      ↔ (∃ t ∈ s.writtenTexts es, t.HasSurrogate) ∧ e = .encoding (s.blamedPart es) := by
  -- the two cases are exhaustive, so it is enough to say what comes out in each
  by_cases h : ∃ t ∈ s.writtenTexts es, t.HasSurrogate
  · rw [package_of_hasSurrogate h, Except.error.injEq, eq_comm]
    exact (and_iff_right h).symm
  · obtain ⟨archive, hpackage⟩ := exists_package_of_not h
    rw [hpackage]
    exact ⟨nofun, fun hsurrogate => absurd hsurrogate.1 h⟩

end Style

end Wordsmith
