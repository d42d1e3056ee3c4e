import Wordsmith.File.Folder

/-!
# Where paths lead

Following a path reads a folder and changes nothing, but folders change between the times at which
paths are followed. This module says what can be relied on then.

* `IsPart` — one folder has everything that another has, and besides only folders and files.
* `IsPart.locate` — a path that can be followed leads to the same place in a folder that has more.
* `locate_through` — whether the last link is gone through matters for links only (`IsLink`).
* `locate_sibling` — paths that differ in their last name lead to places that differ in it.
-/

namespace Wordsmith.Folder

variable {f g : Folder} {p q : Path} {through : Bool} {here there names : List Text} {last : Text}
  {links : Nat} {w : Walk}

/-! ## Folders that have more

What has been there stays (`IsPart.place_eq`), and nothing new is a link. So whoever follows a path in the
larger folder meets the same places and comes to the same end. The end itself may be new, which is why
`walk` arrives at nothing as it arrives at a file. -/

/-- All that `f` has is in `g`; what else there is in `g` are folders and files. -/
structure IsPart (f g : Folder) : Prop where
  start : g.start = f.start
  place : ∀ names, g.place names = f.place names ∨
    f.place names = .nothing ∧ (g.place names = .folder ∨ ∃ number, g.place names = .file number)

namespace IsPart

/-- What is there stays. -/
theorem place_eq (h : IsPart f g) (hthere : f.place names ≠ .nothing) :
    g.place names = f.place names :=
  (h.place names).resolve_right fun hnew => hthere hnew.1

/-- What is known to be there is there still. -/
theorem place_of_eq {place : Place} (h : IsPart f g) (hplace : f.place names = place)
    (hthere : place ≠ .nothing) : g.place names = place :=
  (h.place_eq (hplace ▸ hthere)).trans hplace

/-- A walk along names ends in the same way. -/
theorem walk (h : IsPart f g) (hwalk : f.walk through here names = .ok w) :
    g.walk through here names = .ok w := by
  induction names generalizing here with
  | nil => exact hwalk
  | cons name rest ih =>
    rw [Folder.walk] at hwalk ⊢
    split at hwalk
    · rename_i hback
      rw [if_pos hback]
      exact ih hwalk
    · rename_i hback
      rw [if_neg hback]
      -- the next place is the same in both, or new in the second
      rcases h.place (here ++ [name]) with hsame | ⟨hnothing, hnew⟩
      · rw [hsame]
        cases hplace : f.place (here ++ [name]) <;> rw [hplace] at hwalk
        case folder => exact ih hwalk
        all_goals exact hwalk
      · -- nothing can only be at the end, and there it does not matter what is new
        rw [hnothing] at hwalk
        dsimp only at hwalk
        split at hwalk
        · rename_i hend
          rw [List.isEmpty_iff.mp hend]
          rcases hnew with hfolder | ⟨number, hfile⟩
          · rw [hfolder]
            exact hwalk
          · rw [hfile]
            exact hwalk
        · cases hwalk

/-- So does following a path through links. -/
theorem follow (h : IsPart f g) (hfollow : f.follow through here names links = .ok there) :
    g.follow through here names links = .ok there := by
  induction links generalizing here names with
  | zero => exact hfollow
  | succ links ih =>
    rw [Folder.follow] at hfollow ⊢
    cases hwalk : f.walk through here names with
    | error fault =>
      rw [hwalk] at hfollow
      cases hfollow
    | ok w =>
      rw [hwalk] at hfollow
      rw [h.walk hwalk]
      cases w with
      | arrived => exact hfollow
      | atLink => exact ih hfollow

/-- And a path that can be followed leads to the same place. -/
theorem locate (h : IsPart f g) (hlocate : f.locate through p = .ok there) :
    g.locate through p = .ok there := by
  have hbase : g.base p = f.base p := by
    unfold base
    rw [h.start]
  unfold Folder.locate at hlocate ⊢
  rw [hbase]
  split at hlocate
  · rename_i hfolder
    rw [if_pos (h.place_of_eq hfolder nofun)]
    exact h.follow hlocate
  · cases hlocate

end IsPart

/-! ## Links

`walk true` and `walk false` differ at one point, a link at the end of a way. Where there is none, a path
may be followed either way. -/

/-- The last name of the path is that of a link. -/
def IsLink (f : Folder) (p : Path) : Prop :=
  ∃ there target, f.locate false p = .ok there ∧ f.place there = .link target

/-- A walk along names: the two differ only if it ends at a link. -/
theorem walk_through (f : Folder) (here names : List Text) :
    f.walk true here names = f.walk false here names ∨
      ∃ there target, f.walk false here names = .ok (.arrived there) ∧
        f.place there = .link target := by
  induction names generalizing here with
  | nil => exact .inl rfl
  | cons name rest ih =>
    rw [walk, walk]
    split
    · exact ih _
    · cases hplace : f.place (here ++ [name]) with
      | folder => exact ih _
      | link target =>
        cases rest with
        | nil => exact .inr ⟨_, target, rfl, hplace⟩
        | cons => exact .inl rfl
      | nothing => exact .inl rfl
      | file => exact .inl rfl
      | device => exact .inl rfl

/-- The same with links on the way. -/
theorem follow_through (f : Folder) (here names : List Text) (links : Nat) :
    f.follow true here names links = f.follow false here names links ∨
      ∃ there target, f.follow false here names links = .ok there ∧
        f.place there = .link target := by
  induction links generalizing here names with
  | zero => exact .inl rfl
  | succ links ih =>
    rw [follow, follow]
    rcases f.walk_through here names with hwalk | ⟨there, target, hwalk, hlink⟩
    · rw [hwalk]
      cases f.walk false here names with
      | error => exact .inl rfl
      | ok w =>
        cases w with
        | arrived => exact .inl rfl
        | atLink => exact ih _ _
    · rw [hwalk]
      exact .inr ⟨there, target, rfl, hlink⟩

/-- The same of a path. -/
theorem locate_through (f : Folder) (p : Path) :
    f.locate true p = f.locate false p ∨ f.IsLink p := by
  unfold IsLink locate
  split
  · exact f.follow_through _ _ _
  · exact .inl rfl

/-! ## Names beside each other

All that a walk does before the last name does not depend on that name. So two paths with one parent are
followed through the same links to the same folder, and part only there. -/

/-- Where a name leads from a folder, if it is no link. -/
def step (here : List Text) (name : Text) : List Text :=
  if name.isLiteral ".." then here.dropLast else here ++ [name]

/-- The induction is on the names before the last one; at the end of it the last name alone is left. -/
theorem walk_sibling (f : Folder) (here init : List Text)
    (hwalk : f.walk false here (init ++ [last]) = .ok w) :
    (∃ dir, w = .arrived (step dir last) ∧
        ∀ other, f.walk false here (init ++ [other]) = .ok (.arrived (step dir other))) ∨
      ∃ away rest, w = .atLink away (rest ++ [last]) ∧
        ∀ other, f.walk false here (init ++ [other]) = .ok (.atLink away (rest ++ [other])) := by
  induction init generalizing here with
  | nil =>
    have hstep : ∀ name, f.walk false here [name] = .ok (.arrived (step here name)) := by
      intro name
      unfold step
      rw [walk]
      split
      · rfl
      · cases f.place (here ++ [name]) <;> rfl
    rw [List.nil_append, hstep last] at hwalk
    exact .inl ⟨here, (Except.ok.inj hwalk).symm, hstep⟩
  | cons name init ih =>
    have hmore : ∀ other : Text, (init ++ [other]).isEmpty = false := by
      intro other
      cases init <;> rfl
    simp only [List.cons_append, walk, hmore, Bool.false_and, Bool.false_eq_true, if_false] at hwalk ⊢
    split at hwalk
    · rename_i hback
      simp only [hback, if_true]
      exact ih _ hwalk
    · rename_i hback
      simp only [hback]
      cases hplace : f.place (here ++ [name]) <;> rw [hplace] at hwalk <;> dsimp only at hwalk ⊢
      case folder => exact ih _ hwalk
      -- a link on the way leads elsewhere, with the last name still to come
      case link target =>
        obtain rfl := Except.ok.inj hwalk
        refine .inr ⟨if target.root = 0 then here else [], target.names ++ init, ?_, fun other => ?_⟩ <;>
          rw [List.append_assoc]
        rfl
      all_goals cases hwalk

/-- The induction is on the number of links that may be followed. -/
theorem follow_sibling (f : Folder) (here init : List Text) (links : Nat)
    (hfollow : f.follow false here (init ++ [last]) links = .ok there) :
    ∃ dir, there = step dir last ∧
      ∀ other, f.follow false here (init ++ [other]) links = .ok (step dir other) := by
  induction links generalizing here init with
  | zero => cases hfollow
  | succ links ih =>
    rw [follow] at hfollow
    simp only [follow]
    cases hwalk : f.walk false here (init ++ [last]) with
    | error fault =>
      rw [hwalk] at hfollow
      cases hfollow
    | ok w =>
      rw [hwalk] at hfollow
      rcases f.walk_sibling here init hwalk with ⟨dir, rfl, hother⟩ | ⟨away, rest, rfl, hother⟩
      · refine ⟨dir, (Except.ok.inj hfollow).symm, fun other => ?_⟩
        rw [hother]
      · obtain ⟨dir, hthere, hothers⟩ := ih away rest hfollow
        refine ⟨dir, hthere, fun other => ?_⟩
        rw [hother]
        exact hothers other

/-- Paths that differ in their last name at most lead beside each other. -/
theorem locate_sibling {init : List Text} (hnames : p.names = init ++ [last])
    (hlocate : f.locate false p = .ok there) :
    ∃ dir, there = step dir last ∧
      ∀ other, f.locate false { p with names := init ++ [other] } = .ok (step dir other) := by
  unfold locate at hlocate ⊢
  rw [hnames] at hlocate
  split at hlocate
  · rename_i hfolder
    obtain ⟨dir, hthere, hothers⟩ := f.follow_sibling _ _ _ hlocate
    exact ⟨dir, hthere, fun other => (if_pos hfolder).trans (hothers other)⟩
  · cases hlocate

end Wordsmith.Folder
