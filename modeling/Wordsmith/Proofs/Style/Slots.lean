import Mathlib.Logic.Function.Basic
import Mathlib.Tactic.Choose
import Wordsmith.Style.Preset

/-!
# Slots for heading styles

A heading style can be written down without a font, and with any level; both are settled when it is
made and again each time something in it changes. First a missing font is chosen by the level that
the style has then. Later, in a set of six, each style is copied with the level of its slot if it has
another. `HeadingDraft` keeps these steps apart; a `HeadingStyle` is a draft that has gone through
them.

What can be made of styles in this way, step by step and in any order, is described by
`HeadingDraft.IsMade`, `HeadingDrafts.AreMade` and `Style.IsMade`. All of it has fonts, and in all of
it the slot decides the level (`slots_of_isMade`).

* `HeadingDraft.exists_draft_filled`, `HeadingStyle.draft_change` — a style and its draft go through
  the same steps.
* `HeadingStyles.drafts_put` — to put a style into a slot is to replace one draft and to settle all
  six.
* `Style.IsMade.levelled_headings` — the invariant, by induction on how things are made.
-/

namespace Wordsmith

namespace HeadingSlot

/-- The level of a slot has that slot. -/
@[simp] theorem ofLevel_level (k : HeadingSlot) : ofLevel k.level = k := by
  cases k <;> rfl

/-- A level without a slot has the first. -/
theorem ofLevel_of_outside {n : Int} (h : n < 1 ∨ 6 < n) : ofLevel n = .h1 := by
  unfold ofLevel
  split <;> first | rfl | omega

end HeadingSlot

/-! ## Drafts

A draft is what is written down. `filled` is the first of the two steps and `settled` the second;
`changed` copies a draft and takes the first step again. -/

/-- A heading style as it is written down: the font may be missing. -/
structure HeadingDraft where
  level : Int := 1
  font : Option Font := none
  spacing : Spacing := {}
  keepWithNext : Bool := true
  keepLines : Bool := true
deriving DecidableEq

namespace HeadingDraft

/-- The draft with a font: its own, or else the one that belongs to its level. -/
def filled (d : HeadingDraft) : HeadingDraft :=
  match d.font with
  | some _ => d
  | none => { d with font := some (.heading d.level) }

/-- The draft with some fields replaced, after which it is filled in again. -/
def changed (d : HeadingDraft) (c : HeadingChange) : HeadingDraft :=
  filled
    { level := c.level.getD d.level
      font := c.font.getD d.font
      spacing := c.spacing.getD d.spacing
      keepWithNext := c.keepWithNext.getD d.keepWithNext
      keepLines := c.keepLines.getD d.keepLines }

end HeadingDraft

/-- Six drafts, one for each slot. -/
abbrev HeadingDrafts := HeadingSlot → HeadingDraft

/-- Each draft with the level of its slot. Only one that has another level is changed. -/
def HeadingDrafts.settled (D : HeadingDrafts) : HeadingDrafts := fun k =>
  if (D k).level = k.level then D k else (D k).changed { level := some k.level }

/-- The draft that says all that the style says. -/
def HeadingStyle.draft (s : HeadingStyle) : HeadingDraft where
  level := s.level
  font := some s.font
  spacing := s.spacing
  keepWithNext := s.keepWithNext
  keepLines := s.keepLines

/-- The drafts of six styles. -/
def HeadingStyles.drafts (s : HeadingStyles) : HeadingDrafts := fun k => (s.get k).draft

mutual

/-- The heading styles that can be made: written down, changed, or taken from a slot. -/
inductive HeadingDraft.IsMade : HeadingDraft → Prop where
  | write (d : HeadingDraft) : HeadingDraft.IsMade d.filled
  | change {d : HeadingDraft} (h : HeadingDraft.IsMade d) (c : HeadingChange) :
      HeadingDraft.IsMade (d.changed c)
  | slot {D : HeadingDrafts} {d : HeadingDraft} {k : HeadingSlot} (h : HeadingDrafts.AreMade D)
      (hslot : D k = d) : HeadingDraft.IsMade d

/-- The sets of six heading styles that can be made: put together, the same style in several slots
if need be; with other styles in some slots; or taken from the style of a document. -/
inductive HeadingDrafts.AreMade : HeadingDrafts → Prop where
  | gather {D : HeadingDrafts} (h : ∀ k, HeadingDraft.IsMade (D k)) : HeadingDrafts.AreMade D.settled
  | replace {D E : HeadingDrafts} (h : HeadingDrafts.AreMade D)
      (hslots : ∀ k, E k ≠ D k → HeadingDraft.IsMade (E k)) : HeadingDrafts.AreMade E.settled
  | ofStyle {s : Style} (h : Style.IsMade s) : HeadingDrafts.AreMade s.headings.drafts

/-- The styles of documents that can be made: written down with any fields, taken from a preset, or
changed in any fields. -/
inductive Style.IsMade : Style → Prop where
  | write {s : Style} (h : HeadingDrafts.AreMade s.headings.drafts) : Style.IsMade s
  | preset (p : Preset) : Style.IsMade p.style
  | change {s t : Style} (h : Style.IsMade s)
      (hheadings : t.headings ≠ s.headings → HeadingDrafts.AreMade t.headings.drafts) :
      Style.IsMade t

end

/-! ## Drafts and styles

A style is a draft with a font, and no draft is two styles. So what is shown of drafts holds of styles. -/

namespace HeadingDraft

/-- A draft that has been filled in is a style. -/
theorem exists_draft_filled (d : HeadingDraft) : ∃ s : HeadingStyle, s.draft = d.filled := by
  obtain ⟨level, font, spacing, keepWithNext, keepLines⟩ := d
  cases font with
  | some font => exact ⟨{ level, font, spacing, keepWithNext, keepLines }, rfl⟩
  | none => exact ⟨{ level, spacing, keepWithNext, keepLines }, rfl⟩

end HeadingDraft

namespace HeadingStyle

/-- A style changes as its draft does. -/
theorem draft_change (s : HeadingStyle) (c : HeadingChange) :
    (s.change c).draft = s.draft.changed c := by
  obtain ⟨level, font, spacing, keepWithNext, keepLines⟩ := c
  cases font with
  | none => rfl
  | some font => cases font <;> rfl

/-- Styles with one draft are equal. -/
theorem draft_inj {s t : HeadingStyle} (h : s.draft = t.draft) : s = t := by
  cases s
  cases t
  simp_all [draft]

end HeadingStyle

/-- Of styles, only the levels are settled. -/
theorem HeadingDrafts.settled_draft (styles : HeadingSlot → HeadingStyle) :
    HeadingDrafts.settled (fun k => (styles k).draft)
      = fun k => HeadingStyle.draft { styles k with level := (k.level : Int) } := by
  funext k
  unfold settled
  -- a style that has the level of its slot is not copied
  by_cases hlevel : (styles k).level = (k.level : Int)
  · rw [← hlevel]
    exact if_pos rfl
  -- a font is there, so the copy with another level keeps it
  · exact if_neg hlevel

namespace HeadingStyles

variable (s : HeadingStyles)

/-- To give each style the level of its slot is to settle the six. -/
theorem drafts_levelled : s.levelled.drafts = s.drafts.settled := by
  unfold drafts
  rw [HeadingDrafts.settled_draft]
  funext k
  cases k <;> rfl

/-- The style that has been put is in its slot, and each style has the level of its slot. -/
theorem get_put (j k : HeadingSlot) (style : HeadingStyle) :
    (s.put k style).get j
      = { (if j = k then style else s.get j) with level := (j.level : Int) } := by
  cases j <;> cases k <;> rfl

/-- Sets of styles with the same drafts are equal. -/
theorem drafts_inj {s t : HeadingStyles} (h : s.drafts = t.drafts) : s = t := by
  have hget : ∀ k, s.get k = t.get k := fun k => HeadingStyle.draft_inj (congrFun h k)
  obtain ⟨h1, h2, h3, h4, h5, h6⟩ := s
  obtain ⟨t1, t2, t3, t4, t5, t6⟩ := t
  exact congr (congr (congr (congr (congr (congrArg mk (hget .h1)) (hget .h2)) (hget .h3))
    (hget .h4)) (hget .h5)) (hget .h6)

/-- Whether the levels are those of the slots can be told from the drafts. -/
theorem levelled_of_drafts {s : HeadingStyles}
    (h : ∃ t : HeadingStyles, t.levelled = t ∧ t.drafts = s.drafts) : s.levelled = s := by
  obtain ⟨t, hlevelled, hdrafts⟩ := h
  rw [← drafts_inj hdrafts]
  exact hlevelled

/-- To put a style into a slot is to replace one of the six and to settle them. -/
theorem drafts_put (k : HeadingSlot) (style : HeadingStyle) :
    (s.put k style).drafts = HeadingDrafts.settled (Function.update s.drafts k style.draft) := by
  have hupdate : Function.update s.drafts k style.draft
      = fun j => (if j = k then style else s.get j).draft := by
    funext j
    by_cases hj : j = k
    · rw [hj, Function.update_self, if_pos rfl]
    · rw [Function.update_of_ne hj, if_neg hj]
      rfl
  rw [hupdate, HeadingDrafts.settled_draft]
  funext j
  exact congrArg HeadingStyle.draft (s.get_put j k style)

/-! Once the slots have given their styles the levels, each has its own. -/

section Levelled

variable {s : HeadingStyles} (hs : s.levelled = s)

include hs

/-- The style in a slot has the level of the slot. -/
theorem level_get (k : HeadingSlot) : (s.get k).level = k.level := by
  rw [← hs]
  cases k <;> rfl

/-- The other slots keep their styles. -/
theorem get_put_of_ne {j k : HeadingSlot} (hj : j ≠ k) (style : HeadingStyle) :
    (s.put k style).get j = s.get j := by
  rw [get_put, if_neg hj, ← level_get hs j]

/-- A style that is put into a slot keeps all but its level, and the other slots stay. -/
theorem settled_update (k : HeadingSlot) (style : HeadingStyle) :
    HeadingDrafts.settled (Function.update s.drafts k style.draft)
      = Function.update s.drafts k { style.draft with level := (k.level : Int) } := by
  rw [← drafts_put]
  funext j
  by_cases hj : j = k
  · subst hj
    rw [Function.update_self]
    unfold drafts
    rw [get_put, if_pos rfl]
    rfl
  · rw [Function.update_of_ne hj]
    exact congrArg HeadingStyle.draft (get_put_of_ne hs hj style)

end Levelled

end HeadingStyles

/-! ## What can be made

Styles, sets of six and styles of documents are made of each other, so the invariant is proved of all
three at once, with one case for each way to make something. -/

/-- Settled drafts of styles are again those of styles, with the levels of their slots. -/
theorem HeadingDrafts.exists_drafts_settled {D : HeadingDrafts}
    (h : ∀ k, ∃ s : HeadingStyle, s.draft = D k) :
    ∃ s : HeadingStyles, s.levelled = s ∧ s.drafts = D.settled := by
  choose styles hstyles using h
  let s : HeadingStyles :=
    ⟨styles .h1, styles .h2, styles .h3, styles .h4, styles .h5, styles .h6⟩
  have hs : s.drafts = D := by
    funext k
    rw [← hstyles k]
    cases k <;> rfl
  exact ⟨s.levelled, rfl, by rw [s.drafts_levelled, hs]⟩

/-- In the presets each slot has its level. -/
theorem Preset.levelled_headings (p : Preset) : p.style.headings.levelled = p.style.headings := by
  cases p <;> rfl

mutual

/-- Whatever is made is a style: its font is there. -/
theorem HeadingDraft.IsMade.exists_draft :
    ∀ {d : HeadingDraft}, d.IsMade → ∃ s : HeadingStyle, s.draft = d
  | _, .write d => d.exists_draft_filled
  | _, .change h c => by
    obtain ⟨s, hs⟩ := h.exists_draft
    exact ⟨s.change c, by rw [s.draft_change, hs]⟩
  | _, .slot (k := k) h hslot => by
    obtain ⟨s, -, hs⟩ := h.exists_drafts
    exact ⟨s.get k, by rw [← hslot, ← hs]; rfl⟩

/-- Whatever six are made, they are styles with the levels of their slots. -/
theorem HeadingDrafts.AreMade.exists_drafts :
    ∀ {D : HeadingDrafts}, D.AreMade → ∃ s : HeadingStyles, s.levelled = s ∧ s.drafts = D
  | _, .gather h => HeadingDrafts.exists_drafts_settled fun k => (h k).exists_draft
  | _, .replace (D := D) (E := E) h hslots => by
    obtain ⟨s, -, hs⟩ := h.exists_drafts
    refine HeadingDrafts.exists_drafts_settled fun k => ?_
    by_cases hk : E k = D k
    · exact ⟨s.get k, by rw [hk, ← hs]; rfl⟩
    · exact (hslots k hk).exists_draft
  | _, .ofStyle h => ⟨_, h.levelled_headings, rfl⟩

/-- Whatever style is made, its headings have the levels of their slots. -/
theorem Style.IsMade.levelled_headings :
    ∀ {s : Style}, s.IsMade → s.headings.levelled = s.headings
  | _, .write h => HeadingStyles.levelled_of_drafts h.exists_drafts
  | _, .preset p => p.levelled_headings
  | _, .change (s := s) (t := t) h hheadings => by
    by_cases ht : t.headings = s.headings
    · rw [ht]
      exact h.levelled_headings
    · exact HeadingStyles.levelled_of_drafts (hheadings ht).exists_drafts

end

/-- Every style can be made, by writing it down. -/
theorem HeadingStyle.isMade_draft (s : HeadingStyle) : s.draft.IsMade := .write s.draft

/-- To put a style into a slot makes another set of six. -/
theorem HeadingStyles.areMade_put {s : HeadingStyles} (h : s.drafts.AreMade) (k : HeadingSlot)
    (style : HeadingStyle) : (s.put k style).drafts.AreMade := by
  rw [drafts_put]
  refine .replace h fun j hj => ?_
  by_cases hjk : j = k
  · rw [hjk, Function.update_self]
    exact style.isMade_draft
  · exact absurd (Function.update_of_ne hjk _ _) hj

/-- Of all that can be made of heading styles, nothing lacks a font, and everything in a slot has the
level of that slot: a style that is put into one keeps all but its level, and the others stay as they
are. In the style of a document the slots stand in the order of their levels, and headings of a level
that has no slot are those of the first. -/
theorem slots_of_isMade :
    (∀ D : HeadingDrafts, D.AreMade →
      (∃ s : HeadingStyles, s.drafts = D) ∧
      (∀ k, (D k).font.isSome ∧ (D k).level = (k.level : Int)) ∧
      ∀ k (d : HeadingDraft), d.IsMade →
        HeadingDrafts.settled (Function.update D k d)
          = Function.update D k { d with level := (k.level : Int) }) ∧
    ∀ s : Style, s.IsMade →
      s.headings.drafts.AreMade ∧
      s.headings.toList.map (·.level) = [1, 2, 3, 4, 5, 6] ∧
      (∀ k : HeadingSlot, s.headings.styleFor k.level = s.headings.get k) ∧
      (∀ n, n < 1 ∨ 6 < n → s.headings.styleFor n = s.headings.h1) ∧
      ∀ k (style : HeadingStyle),
        (s.headings.put k style).drafts
          = HeadingDrafts.settled (Function.update s.headings.drafts k style.draft) ∧
        (s.headings.put k style).get k = { style with level := (k.level : Int) } ∧
        ∀ j ≠ k, (s.headings.put k style).get j = s.headings.get j := by
  refine ⟨fun D hD => ?_, fun s hs => ?_⟩
  · -- drafts that can be made are those of styles in slots, so what is said of them is read off the
    -- styles
    obtain ⟨s, hs, rfl⟩ := hD.exists_drafts
    refine ⟨⟨s, rfl⟩, fun k => ⟨rfl, HeadingStyles.level_get hs k⟩, fun k d hd => ?_⟩
    obtain ⟨style, rfl⟩ := hd.exists_draft
    exact HeadingStyles.settled_update hs k style
  · -- styles: their levels are those of their slots, whatever was put where
    have hlevel := HeadingStyles.level_get hs.levelled_headings
    refine ⟨.ofStyle hs, ?_, fun k => ?_, fun n hn => ?_, fun k style => ⟨?_, ?_, fun j hj => ?_⟩⟩
    · show [(s.headings.get .h1).level, (s.headings.get .h2).level, (s.headings.get .h3).level,
        (s.headings.get .h4).level, (s.headings.get .h5).level, (s.headings.get .h6).level] = _
      simp only [hlevel]
      rfl
    · rw [HeadingStyles.styleFor, HeadingSlot.ofLevel_level]
    · rw [HeadingStyles.styleFor, HeadingSlot.ofLevel_of_outside hn]
      rfl
    · exact s.headings.drafts_put k style
    · rw [HeadingStyles.get_put, if_pos rfl]
    · exact HeadingStyles.get_put_of_ne hs.levelled_headings hj style

/-- A preset with one style in two slots, made for the second level and then changed to look as on the
third. -/
def twiceFilled : Style :=
  let shared := ({ level := 2, keepLines := false } : HeadingStyle).change
    { level := some 3, font := some none }
  { Preset.minimal.style with
    headings := (Preset.minimal.style.headings.put .h5 shared).put .h6 shared }

/-- The shared style has the font of the third level and in each slot the level of that slot. -/
theorem slots_of_isMade_twiceFilled :
    let shared : HeadingDraft := ({ level := 2, keepLines := false } : HeadingDraft).filled.changed
      { level := some 3, font := some none }
    let D := HeadingDrafts.settled fun _ => shared
    (shared.IsMade ∧ D.AreMade ∧ (D .h4).font = some { size := 24 } ∧ (D .h4).level = 4 ∧
      HeadingDrafts.settled (Function.update D .h1 shared)
        = Function.update D .h1 { shared with level := 1 }) ∧
    twiceFilled.IsMade ∧
      twiceFilled.headings.toList.map (·.level) = [1, 2, 3, 4, 5, 6] ∧
      twiceFilled.headings.styleFor 5 = { level := 5, font := { size := 24 }, keepLines := false } ∧
      twiceFilled.headings.styleFor 7 = Preset.minimal.style.headings.h1 ∧
      (twiceFilled.headings.put .h1 { level := -4 }).get .h6 = twiceFilled.headings.h6 := by
  intro shared D
  -- a draft in all six slots, and a preset with two slots filled anew
  have hshared : shared.IsMade := .change (.write _) _
  have hD : D.AreMade := .gather fun _ => hshared
  have hmade : twiceFilled.IsMade := .change (.preset .minimal) fun _ =>
    HeadingStyles.areMade_put (HeadingStyles.areMade_put (.ofStyle (.preset .minimal)) _ _) _ _
  obtain ⟨-, hfonts, hupdate⟩ := slots_of_isMade.1 D hD
  obtain ⟨-, hlevels, hslot, houtside, hput⟩ := slots_of_isMade.2 twiceFilled hmade
  refine ⟨⟨hshared, hD, rfl, (hfonts .h4).2, hupdate .h1 shared hshared⟩, hmade, hlevels, ?_, ?_, ?_⟩
  · exact (hslot .h5).trans (by rfl)
  · exact (houtside 7 (by omega)).trans (by rfl)
  · exact (hput .h1 { level := -4 }).2.2 .h6 nofun

end Wordsmith
