import Wordsmith.Proofs.Markup.Select
import Wordsmith.Proofs.Package.LinkModes

/-!
# Reading runs

Where links are hyperlinks, a sequence of runs can be read back from what is written for it: the
texts, the marks and the links of the runs, and where one run ends and the next begins. Two things
are not told apart: an empty link from none, and a linked run from the same run underlined. So two
sequences are written alike exactly if they are equal but for that (`Run.print_namedMarkup_eq_iff`).

* `Run.normal` — a run as far as it can be told.
* `Run.namedMarkup` — what the writer makes of a sequence of runs if link targets have given names;
  with the names in its table it is what the writer makes in fact.
* `Xml.linkedRuns` — the runs that an element of the body stands for.
-/

namespace Wordsmith

open Markup Xml

/-! ## Runs with named links

The names of relationships depend on the whole document, since targets are numbered in the order in
which they occur. For a statement about one sequence of runs the names are given instead, by any
`LinkNaming`; that of a table is one (`LinkTable.naming`). -/

/-- Names for link targets: no two targets have one name, and a name can stand in an attribute as it
is. -/
structure LinkNaming where
  name? : Text → Option Text
  injective : ∀ {target target' name : Text}, name? target = some name →
    name? target' = some name → target = target'
  legible : ∀ {target name : Text}, name? target = some name → ∀ c ∈ name,
    c ≠ '<' ∧ c ≠ '&' ∧ c ≠ '"'

/-- The names of the relationships in a table. -/
def LinkTable.naming (t : LinkTable) : LinkNaming where
  name? := t.name?
  injective := by
    intro target target' name h h'
    obtain ⟨i, hi, rfl⟩ := Option.map_eq_some_iff.mp h
    obtain ⟨j, hj, hname⟩ := Option.map_eq_some_iff.mp h'
    -- a name is written with the number of a place in the table, so it has one place
    have hij : j = i := by
      have hnumber := relationName_inj.mp hname
      omega
    subst hij
    obtain ⟨_, heq, -⟩ := List.idxOf?_eq_some_iff.mp hi
    obtain ⟨_, heq', -⟩ := List.idxOf?_eq_some_iff.mp hj
    exact heq.symm.trans heq'
  legible := by
    intro target name h c hc
    obtain ⟨i, -, rfl⟩ := Option.map_eq_some_iff.mp h
    exact ne_of_isPlain (isPlain_of_mem_relationName hc)

/-- A piece of markup with this one put first in it. -/
def Markup.putFirst (m : Markup) : Markup → Markup
  | .text written => .text written
  | .empty tag attributes => .element tag attributes [m]
  | .element tag attributes ms => .element tag attributes (m :: ms)

namespace Run

/-- The run as far as it can be told from what is written: an empty link is none, and a linked run
is underlined. -/
def normal (r : Run) : Run := { r.underlineLinked with link := r.target? }

/-- A group of runs with this link, as a hyperlink if the link has a target with a name. -/
def namedGroup (p : LinkPolicy) (names : LinkNaming) (link : Option Text) (group : List Run) :
    List Markup :=
  let body := group.map (markup p)
  match (link.filter (!·.isEmpty)).bind names.name? with
  | none => body
  | some name => [.element "w:hyperlink" [.verbatim "r:id" name] body]

/-- A sequence of runs, grouped as the writer groups it, with these names for link targets. -/
def namedMarkup (p : LinkPolicy) (names : LinkNaming) (runs : List Run) : List Markup :=
  (linkGroups runs).flatMap fun g => namedGroup p names g.1 g.2

variable {p : LinkPolicy} {names : LinkNaming}

/-- Without a name the runs stand alone. -/
theorem namedGroup_of_none {link : Option Text}
    (h : (link.filter (!·.isEmpty)).bind names.name? = none) (group : List Run) :
    namedGroup p names link group = group.map (markup p) := by
  unfold namedGroup
  rw [h]

/-- With a name they stand in one hyperlink. -/
theorem namedGroup_of_name {link : Option Text} {name : Text}
    (h : (link.filter (!·.isEmpty)).bind names.name? = some name) (group : List Run) :
    namedGroup p names link group
      = [.element "w:hyperlink" [.verbatim "r:id" name] (group.map (markup p))] := by
  unfold namedGroup
  rw [h]

/-- The writer takes the names from its table. -/
theorem allMarkup_eq_namedMarkup (hmode : p.mode = .hyperlink) (runs : List Run) :
    allMarkup p runs = namedMarkup p p.table.naming runs := by
  unfold allMarkup namedMarkup
  apply List.flatMap_congr
  rintro ⟨link, group⟩ -
  show groupMarkup p link group = namedGroup p p.table.naming link group
  unfold groupMarkup namedGroup
  rw [hmode]
  cases link.filter (!·.isEmpty) with
  | none => rfl
  | some target => rfl

/-! ## Sequences that are written alike

One direction of the result: what is forgotten makes no difference. Groups are cut by links and not by
targets, so this is said of one run after another, in front of those that follow. -/

/-- The normal form leads where the run does. -/
theorem target?_normal (r : Run) : r.normal.target? = r.target? := by
  unfold normal target?
  rw [Option.filter_filter]
  simp

/-- Neither an empty link nor a line under a linked run makes a difference. -/
theorem markup_normal (hmode : p.mode = .hyperlink) (r : Run) : r.normal.markup p = r.markup p := by
  have hlink : r.normal.markup p = r.underlineLinked.markup p := by
    unfold markup properties
    rw [target?_normal, target?_underlineLinked]
    rfl
  rw [hlink, markup_underlineLinked (by rw [hmode]; decide) rfl]

/-- A run whose target has no name stands alone. -/
theorem namedMarkup_cons_of_none {r : Run} (hname : r.target?.bind names.name? = none)
    (rs : List Run) :
    namedMarkup p names (r :: rs) = r.markup p :: namedMarkup p names rs := by
  unfold namedMarkup
  by_cases hlink : rs.head?.map (·.link) = some r.link
  · obtain ⟨group, rest, hrest, hgroups⟩ := linkGroups_cons_of_eq hlink
    rw [hgroups, hrest, List.flatMap_cons, List.flatMap_cons, namedGroup_of_none hname,
      namedGroup_of_none hname]
    rfl
  · rw [linkGroups_cons_of_ne hlink, List.flatMap_cons, namedGroup_of_none hname]
    rfl

/-- Links to the same target are equal, unless there is no target. -/
theorem head?_link_iff {r : Run} {target : Text} (h : r.target? = some target) (rs : List Run) :
    rs.head?.map (·.link) = some r.link ↔ rs.head?.bind target? = r.target? := by
  have hlink : ∀ {s : Run}, s.target? = some target → s.link = some target := fun hs =>
    (Option.filter_eq_some_iff.mp hs).1
  cases rs with
  | nil => simp [h]
  | cons s ss =>
    show some s.link = some r.link ↔ s.target? = r.target?
    rw [Option.some_inj]
    constructor
    · intro heq
      unfold target?
      rw [heq]
    · exact fun heq => (hlink (heq.trans h)).trans (hlink h).symm

/-- A run joins the hyperlink after it if both have the same target. -/
theorem namedMarkup_cons_of_eq {r : Run} {name : Text}
    (hname : r.target?.bind names.name? = some name) {rs : List Run}
    (hnext : rs.head?.bind target? = r.target?) :
    namedMarkup p names (r :: rs)
      = (namedMarkup p names rs).modifyHead (putFirst (r.markup p)) := by
  obtain ⟨target, htarget, -⟩ := Option.bind_eq_some_iff.mp hname
  obtain ⟨group, rest, hrest, hgroups⟩ :=
    linkGroups_cons_of_eq ((head?_link_iff htarget rs).mpr hnext)
  unfold namedMarkup
  rw [hgroups, hrest, List.flatMap_cons, List.flatMap_cons, namedGroup_of_name hname,
    namedGroup_of_name hname]
  rfl

/-- A run opens a hyperlink if what comes after it has another target or none. -/
theorem namedMarkup_cons_of_ne {r : Run} {name : Text}
    (hname : r.target?.bind names.name? = some name) {rs : List Run}
    (hnext : rs.head?.bind target? ≠ r.target?) :
    namedMarkup p names (r :: rs)
      = .element "w:hyperlink" [.verbatim "r:id" name] [r.markup p] :: namedMarkup p names rs := by
  obtain ⟨target, htarget, -⟩ := Option.bind_eq_some_iff.mp hname
  have hlink : rs.head?.map (·.link) ≠ some r.link := (head?_link_iff htarget rs).not.mpr hnext
  unfold namedMarkup
  rw [linkGroups_cons_of_ne hlink, List.flatMap_cons, namedGroup_of_name hname]
  rfl

/-- Runs are written as their normal forms are. The induction is on the runs: a run has the markup and
the target of its normal form, so both stand alone, join the next hyperlink or open one. -/
theorem namedMarkup_normal (hmode : p.mode = .hyperlink) (names : LinkNaming) (runs : List Run) :
    namedMarkup p names (runs.map normal) = namedMarkup p names runs := by
  induction runs with
  | nil => rfl
  | cons r rs ih =>
    -- the next run has its target still, so the groups are the same
    have hnext : (rs.map normal).head?.bind target? = rs.head?.bind target? := by
      rw [List.head?_map, Option.bind_map]
      congr 1
      exact funext target?_normal
    have htarget := target?_normal r
    rw [List.map_cons]
    cases hname : r.target?.bind names.name? with
    | none =>
      rw [namedMarkup_cons_of_none hname, namedMarkup_cons_of_none (by rw [htarget, hname]), ih,
        markup_normal hmode]
    | some name =>
      have hname' : r.normal.target?.bind names.name? = some name := by rw [htarget, hname]
      -- a named run joins the group behind it or starts one
      by_cases hsame : rs.head?.bind target? = r.target?
      · rw [namedMarkup_cons_of_eq hname hsame,
          namedMarkup_cons_of_eq hname' (by rw [hnext, htarget, hsame]), ih, markup_normal hmode]
      · rw [namedMarkup_cons_of_ne hname hsame,
          namedMarkup_cons_of_ne hname' (by rwa [hnext, htarget]), ih, markup_normal hmode]

end Run

/-! ## Reading a run

The other direction: a reader of the elements gets back what is kept. A mark is read by asking whether
there is its tag among the properties. -/

namespace Xml

/-- There is this mark among the properties of a run. -/
def isMarked (tag : String) (x : Xml) : Bool := (x.child? "w:rPr").any (hasChild tag)

/-- The run that an element stands for, apart from its link. -/
def run (x : Xml) : Run where
  text := ((x.child? "w:t").map text).getD []
  bold := x.isMarked "w:b"
  italic := x.isMarked "w:i"
  underlined := x.isMarked "w:u"
  struck := x.isMarked "w:strike"
  code := x.isMarked "w:rStyle"

/-- The runs that an element stands for; those in a hyperlink are linked to its name. -/
def linkedRuns (x : Xml) : List Run :=
  if x.hasTag "w:hyperlink" then x.content.map fun y => y.run.withLink (x.attribute? "r:id")
  else [x.run]

end Xml

namespace Run

variable {p : LinkPolicy} {names : LinkNaming}

/-- A run as an element. -/
def node (p : LinkPolicy) (r : Run) : Xml :=
  Markup.node "w:r" []
    ((if (r.properties p).isEmpty then [] else [.element "w:rPr" [] (r.properties p)]) ++
      [.runText r.text])

/-- Without any marks there are no properties to look for them in. -/
theorem isMarked_node (p : LinkPolicy) (r : Run) (tag : String) :
    (r.node p).isMarked tag = (pick tag (r.properties p)).isSome := by
  unfold node isMarked
  rw [child?_node, pick_append]
  by_cases h : (r.properties p).isEmpty
  · rw [if_pos h, List.isEmpty_iff.mp h]
    rfl
  · rw [if_neg h, pick_element, if_pos rfl]
    rfl

/-- The text of a run is read without what may not occur in markup. -/
theorem text_node (p : LinkPolicy) (r : Run) :
    (((r.node p).child? "w:t").map Xml.text).getD [] = r.text.strip := by
  -- there is no text among the properties
  have hproperties : pick "w:t"
      (if (r.properties p).isEmpty then [] else [.element "w:rPr" [] (r.properties p)])
      = none := by
    split <;> simp
  unfold node
  rw [child?_node, pick_append, hproperties, runText, pick_element, if_pos rfl]
  exact text_element_escape _ _ r.text.strip

/-- A run is read with its marks, and without its link. -/
theorem run_node (hmode : p.mode = .hyperlink) (r : Run) :
    (r.node p).run = { r.underlineLinked with text := r.text.strip, link := none } := by
  -- each property is written under a condition, which is what is read
  have hpick : ∀ (b : Prop) [Decidable b] (t tag : String) (attributes : List Attribute),
      (pick tag (if b then [.empty t attributes] else [])).isSome = (decide b && t = tag) := by
    intro b _ t tag attributes
    by_cases hb : b <;> by_cases ht : t = tag <;> simp [hb, ht]
  unfold Xml.run
  simp only [isMarked_node, text_node, underlineLinked_eq]
  unfold properties value
  simp [hpick, hmode]

/-- The run as it is read: without the code points that may not occur in markup, and with the name
of its target for a link. -/
def named (names : LinkNaming) (r : Run) : Run :=
  { r.normal with text := r.text.strip, link := r.target?.bind names.name? }

/-- An element of a run is read as one run. -/
theorem linkedRuns_node (p : LinkPolicy) (r : Run) : (r.node p).linkedRuns = [(r.node p).run] := by
  have hother : ¬ (r.node p).hasTag "w:hyperlink" = true := by
    unfold node
    rw [hasTag_node]
    decide
  exact if_neg hother

/-- A group is read as its runs, all of them with the name of its target. -/
theorem linkedRuns_namedGroup (hmode : p.mode = .hyperlink) {link : Option Text} {group : List Run}
    (hlink : ∀ r ∈ group, r.link = link) :
    (viewAll (namedGroup p names link group)).flatMap linkedRuns = group.map (named names) := by
  have hbody : viewAll (group.map (markup p)) = group.map (node p) :=
    viewAll_map (fun _ => rfl) group
  -- all runs of the group have the name of the link
  have hnamed : ∀ r ∈ group, (r.node p).run.withLink ((link.filter (!·.isEmpty)).bind names.name?)
      = named names r := by
    intro r hr
    rw [run_node hmode, ← hlink r hr]
    rfl
  cases hname : (link.filter (!·.isEmpty)).bind names.name? with
  | none =>
    rw [hname] at hnamed
    rw [namedGroup_of_none hname, hbody, List.flatMap_map,
      List.flatMap_congr fun r _ => linkedRuns_node p r, ← List.map_eq_flatMap]
    exact List.map_congr_left hnamed
  | some name =>
    obtain ⟨target, -, htarget⟩ := Option.bind_eq_some_iff.mp hname
    have hattribute : (Markup.node "w:hyperlink" [.verbatim "r:id" name]
        (group.map (markup p))).attribute? "r:id" = some name := by
      rw [attribute?_node, written?_cons]
      exact (if_pos rfl).trans (congrArg some (unescape_self (names.legible htarget)))
    rw [hname] at hnamed
    rw [namedGroup_of_name hname, viewAll, view_element, viewAll, List.append_nil,
      List.flatMap_singleton, linkedRuns, if_pos (hasTag_self ..), hattribute]
    show (viewAll (group.map (markup p))).map _ = _
    rw [hbody, List.map_map]
    exact List.map_congr_left hnamed

/-- What is written for a sequence of runs is read as these runs, group by group. -/
theorem linkedRuns_namedMarkup (hmode : p.mode = .hyperlink) (names : LinkNaming)
    (runs : List Run) :
    (viewAll (namedMarkup p names runs)).flatMap linkedRuns = runs.map (named names) := by
  have hgroups := areLinkGroups runs
  have hread : ∀ gs : List (Option Text × List Run), (∀ g ∈ gs, ∀ r ∈ g.2, r.link = g.1) →
      (viewAll (gs.flatMap fun g => namedGroup p names g.1 g.2)).flatMap linkedRuns
        = (gs.map (·.2)).flatten.map (named names) := by
    intro gs hlinks
    induction gs with
    | nil => rfl
    | cons g gs ih =>
      rw [List.forall_mem_cons] at hlinks
      rw [List.flatMap_cons, viewAll_append, List.flatMap_append,
        linkedRuns_namedGroup hmode hlinks.1, ih hlinks.2, ← List.map_append]
      rfl
  unfold namedMarkup
  rw [hread _ fun g hg => (hgroups.label g hg).2, hgroups.flatten]

/-! ## Reading what is printed

From elements to text: the lexicon of runs is legible, so what is printed for them can be read in one
way only. -/

/-- The lexicon of runs: their colour is written as it is, and so are the names of links. -/
def lexicon (color : Text) (names : LinkNaming) : Lexicon where
  tags := elementTags
  verbatim tag t :=
    tag = "w:color" ∧ t = color ∨ tag = "w:hyperlink" ∧ ∃ target, names.name? target = some t

/-- Neither the colour nor a name could be taken for markup. -/
theorem lexicon_legible {color : Text} (hcolor : ∀ c ∈ color, c ≠ '<' ∧ c ≠ '&' ∧ c ≠ '"')
    (names : LinkNaming) : (lexicon color names).Legible where
  names := fun e he => (documentLexicon_named color).names e (List.mem_append_right _ he)
  verbatim := by
    rintro tag t (⟨-, rfl⟩ | ⟨-, target, htarget⟩)
    · exact hcolor
    · exact names.legible htarget

/-- A group is printed within the lexicon. -/
theorem within_namedGroup (link : Option Text) (group : List Run) :
    ∀ m ∈ namedGroup p names link group, Within (lexicon p.color names) m := by
  have hbody : ∀ m ∈ group.map (markup p), Within (lexicon p.color names) m := fun m hm =>
    (within_map_markup group m hm).mono (fun _ he => he) fun _ _ hcolor => .inl hcolor
  cases hname : (link.filter (!·.isEmpty)).bind names.name? with
  | none =>
    rw [namedGroup_of_none hname]
    exact hbody
  | some name =>
    obtain ⟨target, -, htarget⟩ := Option.bind_eq_some_iff.mp hname
    have htag : TagWithin (lexicon p.color names) "w:hyperlink" [.verbatim "r:id" name] :=
      .of_mem (by simp [lexicon, elementTags, Attribute.verbatim])
        (.verbatim (.inr ⟨rfl, target, htarget⟩))
    rw [namedGroup_of_name hname]
    exact List.forall_mem_singleton.mpr (.element htag hbody)

/-- Sequences of runs that are printed alike are read alike. -/
theorem map_named_of_printAll (hmode : p.mode = .hyperlink)
    (hcolor : ∀ c ∈ p.color, c ≠ '<' ∧ c ≠ '&' ∧ c ≠ '"') {rs ss : List Run}
    (h : printAll (namedMarkup p names rs) = printAll (namedMarkup p names ss)) :
    rs.map (named names) = ss.map (named names) := by
  have hcontent : ∀ runs, IsContent (printAll (namedMarkup p names runs))
      (viewAll (namedMarkup p names runs)) := by
    intro runs
    have hpieces : ∀ m ∈ namedMarkup p names runs, ∀ rest xs, IsContent rest xs →
        IsContent (m.print ++ rest) (m.view ++ xs) := by
      intro m hm rest xs hrest
      obtain ⟨g, -, hm⟩ := List.mem_flatMap.mp hm
      exact (within_namedGroup g.1 g.2 m hm).isContent (lexicon_legible hcolor names) hrest
    simpa only [List.append_nil] using isContent_printAll_of_forall hpieces IsContent.nil
  -- equal texts are the content of equal trees
  have hview : viewAll (namedMarkup p names rs) = viewAll (namedMarkup p names ss) :=
    Reader.isContent_unique (hcontent rs) (h ▸ hcontent ss)
  rw [← linkedRuns_namedMarkup hmode names rs, hview, linkedRuns_namedMarkup hmode names ss]

theorem normal_eq (r : Run) :
    r.normal = { r with underlined := r.underlined || r.target?.isSome, link := r.target? } := by
  unfold normal
  rw [underlineLinked_eq]

/-- A run of which the writer keeps everything: its text may occur in markup, and its target has a
name. -/
structure IsNamed (names : LinkNaming) (r : Run) : Prop where
  text : ∀ c ∈ r.text, c.isXmlChar = true
  target : ∀ target, r.target? = some target → (names.name? target).isSome

instance (r : Run) : Decidable (r.IsNamed names) :=
  decidable_of_iff
    (r.text.all CodePoint.isXmlChar = true ∧
      r.target?.all (fun target => (names.name? target).isSome) = true)
    ⟨fun h => ⟨List.all_eq_true.mp h.1, (Option.all_eq_true _ _).mp h.2⟩,
      fun h => ⟨List.all_eq_true.mpr h.text, (Option.all_eq_true _ _).mpr h.target⟩⟩

/-- A text that may occur in markup loses nothing. -/
theorem IsNamed.strip_text {r : Run} (h : r.IsNamed names) : r.text.strip = r.text := by
  refine List.filter_eq_self.mpr fun c hc => ?_
  have hchar := h.text c hc
  rw [CodePoint.isXmlChar_eq, Bool.and_eq_true] at hchar
  exact hchar.1

/-- Different targets have different names, and only a run without a target has none. -/
theorem IsNamed.target?_eq {r s : Run} (hr : r.IsNamed names) (hs : s.IsNamed names)
    (h : r.target?.bind names.name? = s.target?.bind names.name?) : r.target? = s.target? := by
  cases hrtarget : r.target? with
  | none =>
    cases hstarget : s.target? with
    | none => rfl
    | some target =>
      -- one without a target has no name, the other has one
      have hname := hs.target target hstarget
      rw [hrtarget, hstarget, Option.bind_none, Option.bind_some] at h
      rw [← h] at hname
      exact absurd hname Bool.false_ne_true
  | some target =>
    obtain ⟨name, hname⟩ := Option.isSome_iff_exists.mp (hr.target target hrtarget)
    rw [hrtarget, Option.bind_some, hname] at h
    obtain ⟨target', hstarget, hname'⟩ := Option.bind_eq_some_iff.mp h.symm
    rw [hstarget, names.injective hname hname']

/-- What can be told of a run can be told from the run as it is read. -/
theorem IsNamed.normal_eq_of_named_eq {r s : Run} (hr : r.IsNamed names) (hs : s.IsNamed names)
    (h : r.named names = s.named names) : r.normal = s.normal := by
  unfold named at h
  rw [normal_eq, normal_eq, Run.mk.injEq, hr.strip_text, hs.strip_text] at h
  obtain ⟨htext, hbold, hitalic, hunderlined, hstruck, hcode, hlink⟩ := h
  rw [normal_eq, normal_eq, Run.mk.injEq]
  exact ⟨htext, hbold, hitalic, hunderlined, hstruck, hcode, hr.target?_eq hs hlink⟩

end Run

/-- Lists with the same images under `f` have the same images under `g`, if members of them do. -/
theorem map_eq_of_map_eq {α β γ : Type} {f : α → β} {g : α → γ} {xs ys : List α}
    (hinj : ∀ x ∈ xs, ∀ y ∈ ys, f x = f y → g x = g y) (h : xs.map f = ys.map f) :
    xs.map g = ys.map g := by
  induction xs generalizing ys with
  | nil => rw [List.map_eq_nil_iff.mp h.symm]
  | cons x xs ih =>
    cases ys with
    | nil => exact absurd h nofun
    | cons y ys =>
      obtain ⟨hhead, htail⟩ := List.cons.inj h
      have hxy := hinj x List.mem_cons_self y List.mem_cons_self hhead
      have hrest := ih (fun x hx y hy => hinj x (List.mem_cons_of_mem _ hx) y
        (List.mem_cons_of_mem _ hy)) htail
      rw [List.map_cons, List.map_cons, hxy, hrest]

/-- Where links are hyperlinks, two sequences of runs are written alike exactly if they are equal
after empty links are read as none and linked runs as underlined. So the text, the marks and the
link of each run can be told from what is written, and where one run ends and the next begins. Any
names will do for the link targets; the writer takes those of its table. -/
theorem Run.print_namedMarkup_eq_iff {p : LinkPolicy} (hmode : p.mode = .hyperlink)
    (hcolor : ∀ c ∈ p.color, c ≠ '<' ∧ c ≠ '&' ∧ c ≠ '"') (names : LinkNaming) {rs ss : List Run}
    (hrs : ∀ r ∈ rs, r.IsNamed names) (hss : ∀ s ∈ ss, s.IsNamed names) :
    (∀ runs, Run.allMarkup p runs = Run.namedMarkup p p.table.naming runs) ∧
      (printAll (Run.namedMarkup p names rs) = printAll (Run.namedMarkup p names ss) ↔
        rs.map Run.normal = ss.map Run.normal) := by
  refine ⟨Run.allMarkup_eq_namedMarkup hmode, ?_, ?_⟩
  · intro h
    exact map_eq_of_map_eq (fun r hr s hs => (hrs r hr).normal_eq_of_named_eq (hss s hs))
      (map_named_of_printAll hmode hcolor h)
  · intro h
    rw [← namedMarkup_normal hmode names rs, h, namedMarkup_normal hmode]

/-- Two runs with one link, and a run with an empty link. -/
def twiceLinked : List Run :=
  [{ text := "a", link := some "u" }, { text := "<&", bold := true, link := some "u" },
    { text := "b", link := some "" }]

/-- The same runs without the empty link, and with a line under the first one. -/
def twiceLinkedUnderlined : List Run :=
  [{ text := "a", underlined := true, link := some "u" },
    { text := "<&", bold := true, link := some "u" }, { text := "b" }]

/-- The same runs with another link for the second one. -/
def twiceLinkedApart : List Run :=
  [{ text := "a", link := some "u" }, { text := "<&", bold := true, link := some "v" },
    { text := "b" }]

/-- An empty link and a line under a link cannot be told from the print, another target can. -/
theorem Run.print_namedMarkup_eq_iff_twiceLinked :
    let p : LinkPolicy := { mode := .hyperlink, color := "0066cc", table := ⟨["u", "v"]⟩ }
    p.mode = .hyperlink ∧ (∀ c ∈ p.color, c ≠ '<' ∧ c ≠ '&' ∧ c ≠ '"') ∧
      (∀ r ∈ twiceLinked, r.IsNamed p.table.naming) ∧
      (∀ r ∈ twiceLinkedUnderlined, r.IsNamed p.table.naming) ∧
      (∀ r ∈ twiceLinkedApart, r.IsNamed p.table.naming) ∧
      printAll (Run.allMarkup p twiceLinked) = printAll (Run.allMarkup p twiceLinkedUnderlined) ∧
      printAll (Run.allMarkup p twiceLinked) ≠ printAll (Run.allMarkup p twiceLinkedApart) := by
  intro p
  have hmode : p.mode = .hyperlink := rfl
  have hcolor : ∀ c ∈ p.color, c ≠ '<' ∧ c ≠ '&' ∧ c ≠ '"' := by decide
  have hlinked : ∀ r ∈ twiceLinked, r.IsNamed p.table.naming := by decide
  have hunderlined : ∀ r ∈ twiceLinkedUnderlined, r.IsNamed p.table.naming := by decide
  have hapart : ∀ r ∈ twiceLinkedApart, r.IsNamed p.table.naming := by decide
  -- the first two differ in an empty link and in a line under linked text, which is drawn anyway; the
  -- third differs in a target
  obtain ⟨hwriter, halike⟩ :=
    Run.print_namedMarkup_eq_iff hmode hcolor p.table.naming hlinked hunderlined
  obtain ⟨-, hother⟩ := Run.print_namedMarkup_eq_iff hmode hcolor p.table.naming hlinked hapart
  refine ⟨hmode, hcolor, hlinked, hunderlined, hapart, ?_, ?_⟩
  · rw [hwriter, hwriter]
    exact halike.mpr (by decide)
  · rw [hwriter, hwriter]
    exact hother.not.mpr (by decide)

end Wordsmith
