import Mathlib.Data.List.SplitBy
import Wordsmith.Package.Runs

/-!
# Groups of linked runs

A sequence of runs is written group by group. Which groups these are is said without the recursion
that finds them: `groups` cuts the sequence wherever the link changes, and `linkGroups_eq` shows
that the writer meets exactly these groups, each with its link. What becomes of a group depends on
its target and the link mode alone, one equation for each mode.

* `areLinkGroups` — the recursion, by induction on the runs.
* `linkGroups_eq` — its result in terms of `groups`, from which everything about a sequence follows.
* `groupMarkup_of_name` and its likes — a group in each mode.
-/

namespace Wordsmith.Run

/-! ## Maximal groups

A group is given with its link by the writer, and without by `groups`. In between stands
`AreLinkGroups`, the three properties by which labelled groups are determined. -/

/-- The maximal groups of neighbouring runs with equal links. -/
def groups (runs : List Run) : List (List Run) := runs.splitBy fun r s => r.link = s.link

/-- The link of a group, taken from its first run. -/
def groupLink (group : List Run) : Option Text := group.head?.bind (·.link)

/-- The target of a group, absent if it is empty or if the group has no link. -/
def groupTarget? (group : List Run) : Option Text := group.head?.bind target?

/-- The target of a group is its link, unless that is empty. -/
theorem groupTarget?_eq (group : List Run) :
    groupTarget? group = (groupLink group).filter (!·.isEmpty) := by
  cases group <;> rfl

/-- What labelled groups have to be: together they are the runs, each label is the link of all runs
of its group, and neighbouring labels differ. -/
structure AreLinkGroups (runs : List Run) (labelled : List (Option Text × List Run)) : Prop where
  flatten : (labelled.map (·.2)).flatten = runs
  label : ∀ g ∈ labelled, g.2 ≠ [] ∧ ∀ r ∈ g.2, r.link = g.1
  maximal : labelled.IsChain fun g h => g.1 ≠ h.1

/-- The writer's recursion finds the groups. The induction is on the runs: a run either joins the
group after it, whose label it shares, or starts a group with a different label. -/
theorem areLinkGroups (runs : List Run) : AreLinkGroups runs (linkGroups runs) := by
  induction runs with
  | nil => exact ⟨rfl, nofun, .nil⟩
  | cons r rs ih =>
    unfold linkGroups
    cases hrest : linkGroups rs with
    | nil =>
      rw [hrest] at ih
      have hnil : rs = [] := ih.flatten.symm
      refine ⟨by rw [hnil]; rfl, ?_, .singleton _⟩
      rintro g hg
      rw [List.mem_singleton.mp hg]
      exact ⟨nofun, fun s hs => by rw [List.mem_singleton.mp hs]⟩
    | cons g gs =>
      obtain ⟨link, group⟩ := g
      rw [hrest] at ih
      obtain ⟨hflatten, hlabel, hmaximal⟩ := ih
      show AreLinkGroups (r :: rs)
        (if r.link = link then (link, r :: group) :: gs else (r.link, [r]) :: (link, group) :: gs)
      split
      · rename_i heq
        refine ⟨congrArg (r :: ·) hflatten, ?_, ?_⟩
        · intro g hg
          rcases List.mem_cons.mp hg with rfl | hg
          · refine ⟨nofun, List.forall_mem_cons.mpr ⟨heq, ?_⟩⟩
            exact (hlabel (link, group) List.mem_cons_self).2
          · exact hlabel g (List.mem_cons_of_mem _ hg)
        · -- only the first group has grown, and its label is what it was
          cases gs with
          | nil => exact .singleton _
          | cons h hs =>
            rw [List.isChain_cons_cons] at hmaximal ⊢
            exact hmaximal
      · rename_i hne
        refine ⟨congrArg (r :: ·) hflatten, ?_, List.isChain_cons_cons.mpr ⟨hne, hmaximal⟩⟩
        intro g hg
        rcases List.mem_cons.mp hg with rfl | hg
        · exact ⟨nofun, fun s hs => by rw [List.mem_singleton.mp hs]⟩
        · exact hlabel g hg

/-- Labelled groups are the maximal groups, and their labels are the links. -/
theorem AreLinkGroups.eq_map {runs : List Run} {labelled : List (Option Text × List Run)}
    (h : AreLinkGroups runs labelled) :
    labelled = (groups runs).map fun group => (groupLink group, group) := by
  have hgroups : groups runs = labelled.map (·.2) := by
    refine List.splitBy_eq_iff.mpr ⟨h.flatten.symm, ?_, ?_, ?_⟩
    · intro hnil
      obtain ⟨g, hg, heq⟩ := List.mem_map.mp hnil
      exact (h.label g hg).1 heq
    · -- within a group all links are the label
      intro group hgroup
      obtain ⟨g, hg, rfl⟩ := List.mem_map.mp hgroup
      have hlink := (h.label g hg).2
      apply List.Pairwise.isChain
      apply List.pairwise_of_forall_mem_list
      intro r hr s hs
      exact decide_eq_true ((hlink r hr).trans (hlink s hs).symm)
    · -- across a border the links are two labels that differ
      rw [List.isChain_map]
      refine h.maximal.imp_of_mem_imp fun g k hg hk hne => ?_
      obtain ⟨hgroup, hlink⟩ := h.label g hg
      obtain ⟨hgroup', hlink'⟩ := h.label k hk
      refine ⟨hgroup, hgroup', decide_eq_false fun heq => hne ?_⟩
      rw [hlink _ (List.getLast_mem hgroup), hlink' _ (List.head_mem hgroup')] at heq
      exact heq
  -- a group is not empty, so its label can be told from its first run
  have hpair : ∀ g ∈ labelled, (groupLink g.2, g.2) = g := by
    rintro ⟨link, group⟩ hg
    obtain ⟨hgroup, hlink⟩ := h.label _ hg
    cases group with
    | nil => exact absurd rfl hgroup
    | cons r rs => exact congrArg (·, r :: rs) (hlink r List.mem_cons_self)
  rw [hgroups, List.map_map]
  exact ((List.map_congr_left hpair).trans (List.map_id _)).symm

/-- The writer goes through the maximal groups, each with its link. -/
theorem linkGroups_eq (runs : List Run) :
    linkGroups runs = (groups runs).map fun group => (groupLink group, group) :=
  (areLinkGroups runs).eq_map

/-- No run is lost between groups. -/
theorem flatten_groups (runs : List Run) : (groups runs).flatten = runs :=
  List.flatten_splitBy _ runs

/-- So what is done to each run alone does not depend on the groups. -/
theorem flatMap_map_groups {α : Type} (f : Run → α) (runs : List Run) :
    ((groups runs).flatMap fun group => group.map f) = runs.map f := by
  rw [List.flatMap_def, ← List.map_flatten, flatten_groups]

/-- A sequence of runs is written group by group. -/
theorem allMarkup_eq (p : LinkPolicy) (runs : List Run) :
    allMarkup p runs
      = (groups runs).flatMap fun group => groupMarkup p (groupLink group) group := by
  rw [allMarkup, linkGroups_eq, List.flatMap_map]

/-! ## The first run of a sequence

The writer groups from the right: a run joins the first group of the runs after it or comes
before it, as the links say. -/

/-- The first group of a sequence has the link of its first run. -/
theorem exists_linkGroups_cons (r : Run) (rs : List Run) :
    ∃ group rest, linkGroups (r :: rs) = (r.link, group) :: rest := by
  unfold linkGroups
  split
  · split
    · rename_i h
      exact ⟨_, _, by rw [h]⟩
    · exact ⟨_, _, rfl⟩
  · exact ⟨_, _, rfl⟩

/-- A run joins the group after it if their links are equal. -/
theorem linkGroups_cons_of_eq {r : Run} {rs : List Run}
    (h : rs.head?.map (·.link) = some r.link) :
    ∃ group rest, linkGroups rs = (r.link, group) :: rest ∧
      linkGroups (r :: rs) = (r.link, r :: group) :: rest := by
  cases rs with
  | nil => exact absurd h nofun
  | cons s ss =>
    have hlink : s.link = r.link := Option.some.inj h
    obtain ⟨group, rest, hrest⟩ := exists_linkGroups_cons s ss
    rw [hlink] at hrest
    refine ⟨group, rest, hrest, ?_⟩
    rw [linkGroups, hrest]
    exact if_pos rfl

/-- It is a group of its own if they differ, or if nothing follows. -/
theorem linkGroups_cons_of_ne {r : Run} {rs : List Run}
    (h : rs.head?.map (·.link) ≠ some r.link) :
    linkGroups (r :: rs) = (r.link, [r]) :: linkGroups rs := by
  cases rs with
  | nil => rfl
  | cons s ss =>
    have hlink : ¬ r.link = s.link := fun heq => h (congrArg some heq.symm)
    obtain ⟨group, rest, hrest⟩ := exists_linkGroups_cons s ss
    rw [linkGroups, hrest]
    exact if_neg hlink

/-! ## A group in each link mode

One equation for each branch of the writer. Later proofs rewrite with these and never unfold
`groupMarkup`. -/

section Modes

variable {p : LinkPolicy} {group : List Run} {target : Text}

/-- Without a target the runs of a group stand alone. -/
theorem groupMarkup_of_none (h : groupTarget? group = none) :
    groupMarkup p (groupLink group) group = group.map (markup p) := by
  rw [groupTarget?_eq] at h
  unfold groupMarkup
  rw [h]

/-- Where links are only coloured, a group is written run by run. -/
theorem groupMarkup_of_coloredText (hmode : p.mode = .coloredText) :
    groupMarkup p (groupLink group) group = group.map (markup p) := by
  unfold groupMarkup
  rw [hmode]
  cases (groupLink group).filter (!·.isEmpty) <;> rfl

/-- Where targets are shown, the target comes after the runs, as one more run. -/
theorem groupMarkup_of_inlineUrl (hmode : p.mode = .inlineUrl)
    (h : groupTarget? group = some target) :
    groupMarkup p (groupLink group) group
      = group.map (markup p) ++ [(shownTarget target).markup p] := by
  rw [groupTarget?_eq] at h
  unfold groupMarkup
  rw [h, hmode]

/-- Where links are hyperlinks, the runs stand in one, which names its relationship. -/
theorem groupMarkup_of_name {name : Text} (hmode : p.mode = .hyperlink)
    (h : groupTarget? group = some target) (hname : p.table.name? target = some name) :
    groupMarkup p (groupLink group) group
      = [.element "w:hyperlink" [.verbatim "r:id" name] (group.map (markup p))] := by
  rw [groupTarget?_eq] at h
  unfold groupMarkup
  rw [h, hmode]
  simp only [hname]

/-- A target without a relationship cannot be followed. -/
theorem groupMarkup_of_name_none (hmode : p.mode = .hyperlink)
    (h : groupTarget? group = some target) (hname : p.table.name? target = none) :
    groupMarkup p (groupLink group) group = group.map (markup p) := by
  rw [groupTarget?_eq] at h
  unfold groupMarkup
  rw [h, hmode]
  simp only [hname]

end Modes

end Wordsmith.Run
