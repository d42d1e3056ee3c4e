import Mathlib.Data.List.TakeDrop
import Wordsmith.File.Path

/-!
# Paths with another ending

`Path.withEnding` keeps what stands before the last point of the last name. So it gives back a path
exactly if that has the ending already, with something before it (`withEnding_eq_self_iff`); a name that
is nothing but the ending, as that of a hidden file, is taken for one without any.

* `Text.splitLast?_append` — where the last point of a name is.
* `stem_append`, `stem_eq_self_or_ne_nil` — what is kept of a name.
* `EndsIn` — a path whose last name is more than the ending.
-/

namespace Wordsmith.Text

/-- The last mark is the one behind which there is none. -/
theorem splitLast?_append {mark : CodePoint} {before after : Text} (hafter : mark ∉ after) :
    splitLast? mark (before ++ mark :: after) = some (before, after) := by
  -- the text is searched from its end, where nothing is the mark
  have hall : ∀ c ∈ after.reverse, decide (c ≠ mark) = true := by
    intro c hc
    rw [decide_eq_true_iff]
    rintro rfl
    exact hafter (List.mem_reverse.mp hc)
  have hspan : (before ++ mark :: after).reverse.span (· ≠ mark) =
      (after.reverse, mark :: before.reverse) := by
    rw [List.span_eq_takeWhile_dropWhile, List.reverse_append, List.reverse_cons, List.append_assoc]
    rw [List.takeWhile_append_of_pos hall, List.dropWhile_append_of_pos hall]
    simp
  unfold splitLast?
  rw [hspan]
  simp

end Wordsmith.Text

namespace Wordsmith.Path

/-- A file name keeps what stands before the last point, unless there is nothing on one side of it. -/
theorem stem_append {before after : Text} (hbefore : before ≠ []) (hafter : after ≠ [])
    (hpoint : CodePoint.ofChar '.' ∉ after) :
    stem (before ++ CodePoint.ofChar '.' :: after) = before := by
  unfold stem
  rw [Text.splitLast?_append hpoint]
  simp [hbefore, hafter]

/-- A name without anything before its ending is its own stem. -/
theorem stem_eq_self_or_ne_nil (name : Text) : stem name = name ∨ stem name ≠ [] := by
  unfold stem
  split
  · split
    · exact .inl rfl
    · rename_i hsome
      exact .inr fun hnil => hsome (by simp [hnil])
  · exact .inl rfl

/-- The name of a path with another ending stands where that of the path has stood. -/
theorem names_withEnding {p : Path} {init : List Text} {name : Text}
    (hnames : p.names = init ++ [name]) (ending : Text) :
    p.withEnding ending = { p with names := init ++ [stem name ++ ending] } := by
  simp [withEnding, hnames]

/-- The last name of the path is `ending` with something before it. -/
def EndsIn (p : Path) (ending : Text) : Prop :=
  ∃ (init : List Text) (before : Text), before ≠ [] ∧ p.names = init ++ [before ++ ending]

/-- A path with a name gets another one, unless that has the ending already. -/
theorem withEnding_eq_self_iff {p : Path} {after : Text} (hnames : p.names ≠ []) (hafter : after ≠ [])
    (hpoint : CodePoint.ofChar '.' ∉ after) :
    p.withEnding (CodePoint.ofChar '.' :: after) = p ↔ p.EndsIn (CodePoint.ofChar '.' :: after) := by
  obtain ⟨init, name, hname⟩ := (List.eq_nil_or_concat p.names).resolve_left hnames
  rw [List.concat_eq_append] at hname
  rw [names_withEnding hname]
  constructor
  · -- the stem is all but the ending, and not empty
    intro heq
    have hlast : stem name ++ CodePoint.ofChar '.' :: after = name := by
      have hsame := congrArg Path.names heq
      rw [hname] at hsame
      simpa using hsame
    rcases stem_eq_self_or_ne_nil name with hself | hne
    · rw [hself] at hlast
      simp at hlast
    · exact ⟨init, stem name, hne, by rw [hname, hlast]⟩
  · rintro ⟨init', before, hbefore, hsame⟩
    rw [hname] at hsame
    obtain ⟨-, hlast⟩ := List.append_inj' hsame rfl
    -- what is kept is what stands before the ending
    have hstem : stem name = before := by
      rw [List.singleton_inj.mp hlast, stem_append hbefore hafter hpoint]
    rw [hstem, ← List.singleton_inj.mp hlast, ← hname]

end Wordsmith.Path
