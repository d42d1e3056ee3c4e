import Wordsmith.Proofs.Package.Pieces

/-!
# The text of the body

Unless link targets are shown as text, the text elements of the document part hold the texts of the
pieces of the document in reading order, without the code points that may not occur in markup.

The text is compared before and after the same sequence of steps, from a run over a group and a
sequence to the pieces of the document (`shownText_documentMarkup`).
-/

namespace Wordsmith

open Markup

/-- The text of a sequence of elements in reading order. -/
def Element.allText (es : List Element) : Text := (Element.allPieces es).flatMap Piece.allText

/-- The text that markup shows: the characters in its text elements, in document order. -/
def Markup.shownText (ms : List Markup) : Text := (find "w:t" ms).flatMap Xml.text

/-- Stripping a text strips each part of it. -/
theorem Text.strip_flatMap {α : Type} (f : α → Text) (xs : List α) :
    strip (xs.flatMap f) = xs.flatMap fun x => strip (f x) := by
  induction xs with
  | nil => rfl
  | cons x xs ih => rw [List.flatMap_cons, strip_append, ih, List.flatMap_cons]

namespace Markup

/-- Markup that is written in pieces shows the texts of the pieces. -/
theorem shownText_flatMap {α : Type} (f : α → List Markup) (xs : List α) :
    shownText (xs.flatMap f) = xs.flatMap fun x => shownText (f x) := by
  unfold shownText
  rw [find_flatMap, List.flatMap_assoc]

/-- A text is read back as it is, once it is stripped. -/
theorem shownText_runText (t : Text) : shownText [runText t] = t.strip := by
  unfold shownText runText
  -- escaping is undone by reading, stripping is not
  rw [find_element_self, find_text, List.flatMap_singleton, text_element_escape]

end Markup

section Runs

variable {p : LinkPolicy}

/-- Runs alone show their texts. -/
theorem shownText_map_markup (runs : List Run) :
    shownText (runs.map (Run.markup p)) = (Run.allText runs).strip := by
  have hrun : ∀ r ∈ runs, (find "w:t" [r.markup p]).flatMap Xml.text = r.text.strip := by
    intro r _
    rw [find_run (by decide)]
    exact shownText_runText r.text
  unfold shownText Run.allText
  rw [find_map, List.flatMap_assoc, List.flatMap_congr hrun, Text.strip_flatMap]

/-- A group shows its texts, whether it can be followed or not. -/
theorem shownText_groupMarkup (hmode : p.mode ≠ .inlineUrl) (group : List Run) :
    shownText (Run.groupMarkup p (Run.groupLink group) group) = (Run.allText group).strip := by
  rw [← shownText_map_markup (p := p)]
  cases htarget : Run.groupTarget? group with
  | none => rw [Run.groupMarkup_of_none htarget]
  | some target =>
    cases hlinks : p.mode with
    | coloredText => rw [Run.groupMarkup_of_coloredText hlinks]
    | inlineUrl => exact absurd hlinks hmode
    | hyperlink =>
      cases hname : p.table.name? target with
      | none => rw [Run.groupMarkup_of_name_none hlinks htarget hname]
      | some name =>
        -- a hyperlink shows what is in it
        rw [Run.groupMarkup_of_name hlinks htarget hname]
        unfold shownText
        rw [find_element_of_ne (by decide)]

/-- A sequence of runs shows its texts: cutting it into groups loses nothing. -/
theorem shownText_runs (hmode : p.mode ≠ .inlineUrl) (runs : List Run) :
    shownText (Run.allMarkup p runs) = (Run.allText runs).strip := by
  rw [Run.allMarkup_eq, shownText_flatMap,
    List.flatMap_congr fun group _ => shownText_groupMarkup hmode group, ← Text.strip_flatMap]
  unfold Run.allText
  rw [← List.flatMap_assoc, List.flatMap_id', Run.flatten_groups]

/-- A piece of the document shows its text. -/
theorem shownText_piece (hmode : p.mode ≠ .inlineUrl) (piece : Piece) :
    shownText (piece.markup p) = piece.allText.strip := by
  cases piece with
  | sequence runs => exact shownText_runs hmode runs
  | text t => exact shownText_runText t

end Runs

/-- Unless link targets are shown as text, the document part shows the text of the elements. -/
theorem shownText_documentMarkup (p : BodyPolicy) (hmode : p.links.mode ≠ .inlineUrl)
    (size : PageSize) (margins : PageMargins) (es : List Element) :
    shownText [documentMarkup p size margins es] = (Element.allText es).strip := by
  unfold shownText Element.allText
  rw [find_documentMarkup (by decide), List.flatMap_assoc, Text.strip_flatMap]
  exact List.flatMap_congr fun piece _ => shownText_piece hmode piece

end Wordsmith
