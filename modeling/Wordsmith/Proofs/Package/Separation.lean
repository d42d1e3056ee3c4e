import Wordsmith.Package.Part

/-!
# Separation of content and styling

A style has two halves. The frame is the page and what becomes of links, the look is all else. The
document part and its relationships depend on the elements and on the frame, the styles part on the
look alone, and the other parts on nothing (`Style.partText_separation`). So a document keeps its
body when it gets another look, and its styles when it gets another frame or other content.

* `SameFrame`, `SameLook` — that two styles agree on one of the halves, field by field.
* `SameFrame.bodyPolicy_eq` — the body asks for the frame alone.
* `SameLook.markup_eq` — the definitions of the styles ask for the look alone.
-/

namespace Wordsmith

namespace Style

variable {s t : Style}

/-! ## The two halves

Every field of a style is in one of the halves and none is in both, so styles that agree on both are
equal. -/

/-- Two styles have the same page, and links look and work alike in both. -/
structure SameFrame (s t : Style) : Prop where
  pageSize : s.pageSize = t.pageSize
  pageMargins : s.pageMargins = t.pageMargins
  linkColor : s.linkColor = t.linkColor
  linkMode : s.linkMode = t.linkMode

/-- Two styles agree on all that is no part of the frame. -/
structure SameLook (s t : Style) : Prop where
  defaultFont : s.defaultFont = t.defaultFont
  lineSpacing : s.lineSpacing = t.lineSpacing
  headings : s.headings = t.headings
  paragraphs : s.paragraphs = t.paragraphs
  codeBlocks : s.codeBlocks = t.codeBlocks
  quotes : s.quotes = t.quotes
  tables : s.tables = t.tables
  lists : s.lists = t.lists

/-- The two halves leave nothing out. -/
theorem eq_of_sameFrame_of_sameLook (hframe : s.SameFrame t) (hlook : s.SameLook t) : s = t := by
  obtain ⟨hsize, hmargins, hcolor, hmode⟩ := hframe
  obtain ⟨hfont, hline, hheadings, hparagraphs, hcode, hquotes, htables, hlists⟩ := hlook
  cases s
  cases t
  cases hsize; cases hmargins; cases hcolor; cases hmode
  cases hfont; cases hline; cases hheadings; cases hparagraphs
  cases hcode; cases hquotes; cases htables; cases hlists
  rfl

/-! ## What the parts ask for

What is written for the body depends on a style through its policy (`bodyPolicy`) and the page only. -/

/-- The frame is what a style says about links. -/
theorem SameFrame.linkPolicy_eq (h : s.SameFrame t) (links : List Text) :
    s.linkPolicy links = t.linkPolicy links := by
  unfold linkPolicy
  rw [h.linkMode, h.linkColor]

/-- The frame is all that the body asks of a style: tables share the width that the page has. -/
theorem SameFrame.bodyPolicy_eq (h : s.SameFrame t) (links : List Text) :
    s.bodyPolicy links = t.bodyPolicy links := by
  have hwidth : s.contentWidth = t.contentWidth := by
    unfold contentWidth
    rw [h.pageSize, h.pageMargins]
  unfold bodyPolicy
  rw [h.linkPolicy_eq links, hwidth]

/-- So the document part is the same. -/
theorem SameFrame.partMarkup_document (h : s.SameFrame t) (es : List Element) :
    s.partMarkup es .document = t.partMarkup es .document := by
  simp only [partMarkup]
  rw [h.bodyPolicy_eq, h.pageSize, h.pageMargins]

/-- And so are its relationships. -/
theorem SameFrame.partMarkup_relationships (h : s.SameFrame t) (es : List Element) :
    s.partMarkup es .documentRelationships = t.partMarkup es .documentRelationships := by
  simp only [partMarkup]
  rw [h.linkPolicy_eq]

/-- The look is all that the definitions of the styles are made from. -/
theorem SameLook.markup_eq (h : s.SameLook t) : s.markup = t.markup := by
  unfold markup
  rw [h.defaultFont, h.lineSpacing, h.headings, h.paragraphs, h.codeBlocks, h.quotes, h.tables,
    h.lists]

/-- Styles with the same frame write the same body and the same relationships for the same elements,
styles with the same look write the same styles part whatever the elements, and the other four parts
are always the same. -/
theorem partText_separation (s t : Style) (es es' : List Element) :
    (s.SameFrame t → s.partText es .document = t.partText es .document ∧
      s.partText es .documentRelationships = t.partText es .documentRelationships) ∧
    (s.SameLook t → s.partText es .styles = t.partText es' .styles) ∧
    ∀ part ∈ [Part.contentTypes, .packageRelationships, .settings, .settingsRelationships],
      s.partText es part = t.partText es' part := by
  refine ⟨fun hframe => ⟨?_, ?_⟩, fun hlook => ?_, fun part hpart => ?_⟩
  · unfold partText
    rw [hframe.partMarkup_document]
  · unfold partText
    rw [hframe.partMarkup_relationships]
  · have hmarkup : s.partMarkup es .styles = t.partMarkup es' .styles := hlook.markup_eq
    unfold partText
    rw [hmarkup]
  · -- the parts that are the same for all documents
    simp only [List.mem_cons, List.not_mem_nil, or_false] at hpart
    rcases hpart with rfl | rfl | rfl | rfl <;> rfl

/-- A plain style with another look. -/
def quotedInRed : Style where
  quotes := { font := { color := "FF0000" } }
  defaultFont := { size := 30 }

/-- A plain style with another frame. -/
def narrowWithLinks : Style where
  pageSize := { width := 8000 }
  linkMode := .hyperlink

/-- Red quotes leave the body of a heading as it was, and a narrow page with links leaves the styles as
they were. -/
theorem partText_separation_plain :
    (SameFrame {} quotedInRed ∧
      partText {} [.heading 2 "A"] .document = quotedInRed.partText [.heading 2 "A"] .document) ∧
    SameLook {} narrowWithLinks ∧
      partText {} [.heading 2 "A"] .styles = narrowWithLinks.partText [.horizontalRule] .styles :=
  have hframe : SameFrame {} quotedInRed := ⟨rfl, rfl, rfl, rfl⟩
  have hlook : SameLook {} narrowWithLinks := ⟨rfl, rfl, rfl, rfl, rfl, rfl, rfl, rfl⟩
  ⟨⟨hframe, ((partText_separation {} quotedInRed [.heading 2 "A"] []).1 hframe).1⟩,
    hlook, (partText_separation {} narrowWithLinks [.heading 2 "A"] [.horizontalRule]).2.1 hlook⟩

end Style

end Wordsmith
