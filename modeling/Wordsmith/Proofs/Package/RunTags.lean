import Wordsmith.Package.Runs
import Wordsmith.Proofs.Markup.Everywhere

/-!
# What holds of every tag of runs

Runs are written with a few tags, and with one reference to a style, that of code. A property that
these have holds everywhere in a sequence of runs, however it is grouped into links.

The property is any predicate `P` on a tag and its attributes. So the lemma serves for what a paragraph
may hold, for what may be printed, and for whatever else a single tag decides.
-/

namespace Wordsmith.Run

open Markup

/-- The tags of runs, apart from the reference to the style of code. -/
def tags : List String :=
  ["w:r", "w:rPr", "w:b", "w:i", "w:strike", "w:color", "w:u", "w:t", "w:hyperlink"]

variable {P : String → List Attribute → Prop} {p : LinkPolicy}
  (htags : ∀ tag ∈ tags, ∀ attributes, P tag attributes)

include htags

/-- The text of a run has one tag. -/
theorem everywhere_runText (t : Text) : Everywhere P (runText t) := by
  have htag : ∀ attributes, P "w:t" attributes := htags _ (by simp [tags])
  simp [runText, htag]

variable (hcode : P "w:rStyle" [⟨"w:val", Text.ofString "Code"⟩])

include hcode

/-- A run, with any of its marks. -/
theorem everywhere_markup (r : Run) : Everywhere P (r.markup p) := by
  -- a mark is written or not, and either way its tag has the property
  have hmark : ∀ (b : Prop) [Decidable b] {m : Markup}, Everywhere P m →
      AllEverywhere P (if b then [m] else []) := by
    intro b _ m h
    exact allEverywhere_if h.singleton
  have hproperties : AllEverywhere P (r.properties p) := by
    unfold properties
    simp only [allEverywhere_append]
    refine ⟨⟨⟨⟨⟨hmark _ (.empty hcode), ?_⟩, ?_⟩, ?_⟩, ?_⟩, ?_⟩
    all_goals exact hmark _ (.empty (htags _ (by simp [tags]) _))
  unfold markup
  refine .element (htags _ (by simp [tags]) _) (allEverywhere_append.mpr ⟨?_, ?_⟩)
  · -- a run without marks has no properties
    split
    · exact allEverywhere_nil
    · exact (Everywhere.element (htags _ (by simp [tags]) _) hproperties).singleton
  · exact (everywhere_runText htags _).singleton

/-- Runs without anything between them. -/
theorem allEverywhere_map_markup (runs : List Run) : AllEverywhere P (runs.map (markup p)) :=
  allEverywhere_map.mpr fun r _ => everywhere_markup htags hcode r

/-- A group of runs, in any link mode: as it is, with its target behind it, or in an element of its
own. -/
theorem allEverywhere_groupMarkup (link : Option Text) (group : List Run) :
    AllEverywhere P (groupMarkup p link group) := by
  have hbody := allEverywhere_map_markup (p := p) htags hcode group
  unfold groupMarkup
  split
  · exact hbody
  · split
    · exact hbody
    · exact allEverywhere_append.mpr ⟨hbody, (everywhere_markup htags hcode _).singleton⟩
    · split
      · exact hbody
      · exact (Everywhere.element (htags _ (by simp [tags]) _) hbody).singleton

/-- All runs of a sequence. -/
theorem allEverywhere_allMarkup (runs : List Run) : AllEverywhere P (allMarkup p runs) :=
  allEverywhere_flatMap.mpr fun g _ => allEverywhere_groupMarkup htags hcode g.1 g.2

end Wordsmith.Run
