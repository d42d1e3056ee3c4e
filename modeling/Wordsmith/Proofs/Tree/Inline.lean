import Wordsmith.Proofs.Tree.Texts
import Wordsmith.Proofs.Tree.Walk

/-!
# Runs by their paths

The runs of inline nodes are made from the inside out: a wrapper marks the runs that its children
give. What comes of it can be said leaf by leaf. Each text, piece of code and break that only
wrappers stand above gives one run, in reading order, and the marks of the run are read off the
nodes above it (`Stop.run`): of several links around it the outermost counts.

* `allRuns_eq_map_stops` — the runs of a sequence of nodes are those of the leaves.
* `Rewrapped.allRuns_eq` — how emphasis is nested plays no part.

* `inlineWalk` — the walk to the leaves; its stops are defined without the runs (`Walk.Reaches`).
* `Stop.run` — the run of a leaf, from the nodes above it alone.
-/

namespace Wordsmith.Node

/-! ## Leaves and their runs

A node gives a run, or passes on what is below it, or neither. What it is for its parent plays no part,
unlike for the items of lists. -/

/-- The node gives a run by itself. -/
def givesRun (n : Node) : Bool :=
  match n.kind with
  | .text => n.children.isEmpty && !n.text.isEmpty
  | .inlineCode | .softBreak | .lineBreak => true
  | _ => false

/-- The node shows what is below it: a wrapper, or a text with children. -/
def passesOn (n : Node) : Bool :=
  match n.kind with
  | .text => !n.children.isEmpty
  | .bold | .italic | .strikethrough | .link => true
  | _ => false

/-- The walk to the leaves that give runs. -/
def inlineWalk : Walk where
  stopsAt _ n := n.givesRun
  enters _ n := n.passesOn

namespace Stop

/-- One of the nodes above has this kind. -/
def isUnder (s : Stop) (kind : NodeKind) : Bool := s.above.any fun n => n.kind = kind

/-- The target of the outermost link above, unless it is empty. -/
def target? (s : Stop) : Option Text :=
  (s.above.find? fun n => n.kind = .link).bind fun n => if n.url.isEmpty then none else some n.url

/-- The run that a leaf gives where it stands. -/
def run (s : Stop) : Run where
  text := if s.node.kind.isBreak then Text.ofString " " else s.node.text
  bold := s.isUnder .bold
  italic := s.isUnder .italic
  underlined := false
  struck := s.isUnder .strikethrough
  code := s.node.kind = .inlineCode
  link := s.target?

/-- A wrapper marks a run as it does by standing above it. -/
theorem run_under {n : Node} {mark : Run → Run} (h : marking? n.kind n.url = some mark) (s : Stop)
    (i : Nat) : (s.under i n).run = mark s.run := by
  obtain ⟨kind, children, text, level, language, url, title, alt, align, header, checked, start⟩ :=
    n
  cases kind <;> cases h <;>
    simp [run, under, isUnder, target?, Run.withBold, Run.withItalic, Run.withStruck,
      Run.withLink] <;> constructor <;> rfl

/-- A text above a leaf leaves the run as it is. -/
theorem run_under_text {n : Node} (h : n.kind = .text) (s : Stop) (i : Nat) :
    (s.under i n).run = s.run := by
  simp [run, under, isUnder, target?, h]
  constructor <;> rfl

end Stop

/-- What a node gives: its own run, and the runs of the leaves below it. -/
theorem runs_eq_map_run {n : Node} {below : List Stop}
    (hbelow : allRuns n.children = below.map Stop.run) (i : Nat) :
    n.runs = ((if n.givesRun then [(⟨[i], [], n⟩ : Stop)] else []) ++
      if n.passesOn then below.map (·.under i n) else []).map Stop.run := by
  -- a wrapper marks each run below it as it would by standing above its leaf
  have hwrapper : ∀ {mark : Run → Run}, marking? n.kind n.url = some mark →
      (allRuns n.children).map mark = (below.map (·.under i n)).map Stop.run := by
    intro mark hmark
    rw [hbelow, List.map_map, List.map_map]
    exact List.map_congr_left fun s _ => (Stop.run_under hmark s i).symm
  have htext : n.kind = .text →
      allRuns n.children = (below.map (·.under i n)).map Stop.run := by
    intro hkind
    rw [hbelow, List.map_map]
    exact List.map_congr_left fun s _ => (Stop.run_under_text hkind s i).symm
  obtain ⟨kind, children, text, level, language, url, title, alt, align, header, checked, start⟩ :=
    n
  cases kind with
  | bold => exact hwrapper rfl
  | italic => exact hwrapper rfl
  | strikethrough => exact hwrapper rfl
  | link => exact hwrapper rfl
  | text =>
    cases children with
    | nil => cases text <;> rfl
    | cons c cs => exact htext rfl
  | _ => rfl

/-- The runs of a sequence of nodes are those of its leaves. -/
theorem allRuns_eq_map_stops (parent : Option NodeKind) (i : Nat) (ns : List Node) :
    allRuns ns = (inlineWalk.stops parent i ns).map Stop.run := by
  induction ns using children_induction generalizing parent i with
  | step ns ih =>
    -- along the sequence; below each node the first induction goes on
    induction ns generalizing i with
    | nil =>
      rw [Walk.stops]
      rfl
    | cons n ns ihRest =>
      rw [List.forall_mem_cons] at ih
      rw [Walk.stops, ← List.append_assoc, List.map_append, ← ihRest ih.2 (i + 1), allRuns_cons,
        runs_eq_map_run (ih.1 (some n.kind) 0) i]
      rfl

/-! ## Chains of wrappers

Emphasis can be nested in any order with the same effect, links cannot: only the outermost counts.
`SameMarks` is the relation on chains that this leaves, and `Rewrapped` extends it to all depths. -/

/-- Wrappers around a sequence of nodes, the outermost first. -/
def wrap (wrappers ns : List Node) : List Node :=
  wrappers.foldr (fun w inner => [{ w with children := inner }]) ns

/-- Two chains of wrappers with the same kinds of emphasis, in whatever order and however often, and
with the same links from the outermost on. -/
structure SameMarks (ws vs : List Node) : Prop where
  wrappers : ∀ w ∈ ws ++ vs, (marking? w.kind w.url).isSome = true
  emphasis : ∀ kind ≠ .link, (∃ w ∈ ws, w.kind = kind) ↔ ∃ v ∈ vs, v.kind = kind
  links : (ws.filter fun w => w.kind = .link).map (·.url)
    = (vs.filter fun v => v.kind = .link).map (·.url)

/-- Sequences of nodes that differ, at any depth, only in how emphasis is nested in chains of
wrappers. -/
inductive Rewrapped : List Node → List Node → Prop where
  | refl (ns : List Node) : Rewrapped ns ns
  | chain {ws vs ns ms : List Node} (hchain : SameMarks ws vs) (h : Rewrapped ns ms) :
      Rewrapped (wrap ws ns) (wrap vs ms)
  | inside (n : Node) {ns ms : List Node} (h : Rewrapped ns ms) :
      Rewrapped [{ n with children := ns }] [{ n with children := ms }]
  | append {ns ms ns' ms' : List Node} (h : Rewrapped ns ms) (h' : Rewrapped ns' ms') :
      Rewrapped (ns ++ ns') (ms ++ ms')

/-- What a chain of wrappers does to a run. -/
def chainMark (wrappers : List Node) (r : Run) : Run :=
  { r with
    bold := r.bold || wrappers.any fun w => w.kind = .bold
    italic := r.italic || wrappers.any fun w => w.kind = .italic
    struck := r.struck || wrappers.any fun w => w.kind = .strikethrough
    link :=
      match ((wrappers.filter fun w => w.kind = .link).map (·.url)).head? with
      | some url => if url.isEmpty then none else some url
      | none => r.link }

/-- The outermost wrapper marks last. -/
theorem chainMark_cons {w : Node} {mark : Run → Run} (h : marking? w.kind w.url = some mark)
    (wrappers : List Node) (r : Run) :
    chainMark (w :: wrappers) r = mark (chainMark wrappers r) := by
  obtain ⟨kind, children, text, level, language, url, title, alt, align, header, checked, start⟩ :=
    w
  cases kind <;> cases h <;>
    simp [chainMark, Run.withBold, Run.withItalic, Run.withStruck, Run.withLink]

/-- A wrapper marks the runs of its children. -/
theorem runs_of_marking? {n : Node} {mark : Run → Run} (h : marking? n.kind n.url = some mark) :
    n.runs = (allRuns n.children).map mark := by
  obtain ⟨kind, children, text, level, language, url, title, alt, align, header, checked, start⟩ :=
    n
  cases kind <;> cases h <;> rfl

/-- A chain of wrappers marks the runs inside. -/
theorem allRuns_wrap {wrappers : List Node}
    (h : ∀ w ∈ wrappers, (marking? w.kind w.url).isSome = true) (ns : List Node) :
    allRuns (wrap wrappers ns) = (allRuns ns).map (chainMark wrappers) := by
  induction wrappers with
  | nil =>
    have hid : chainMark [] = id := by
      funext r
      simp [chainMark]
    rw [hid, List.map_id]
    rfl
  | cons w wrappers ih =>
    rw [List.forall_mem_cons] at h
    obtain ⟨mark, hmark⟩ := Option.isSome_iff_exists.mp h.1
    have hcons : chainMark (w :: wrappers) = mark ∘ chainMark wrappers :=
      funext fun r => chainMark_cons hmark wrappers r
    -- the outermost wrapper holds the rest of the chain
    show allRuns [{ w with children := wrap wrappers ns }] = _
    rw [allRuns_cons, runs_of_marking? (n := { w with children := wrap wrappers ns }) hmark, ih h.2,
      List.map_map, hcons]
    exact List.append_nil _

/-- Chains with the same marks mark alike. -/
theorem SameMarks.chainMark_eq {ws vs : List Node} (h : SameMarks ws vs) :
    chainMark ws = chainMark vs := by
  -- whether there is emphasis of a kind, not where
  have hany : ∀ kind ≠ .link,
      (ws.any fun w => w.kind = kind) = vs.any fun v => v.kind = kind := by
    intro kind hkind
    rw [Bool.eq_iff_iff]
    simpa using h.emphasis kind hkind
  funext r
  unfold chainMark
  rw [hany .bold (by decide), hany .italic (by decide), hany .strikethrough (by decide), h.links]

/-- Which of the chains is named first does not matter. -/
theorem SameMarks.symm {ws vs : List Node} (h : SameMarks ws vs) : SameMarks vs ws where
  wrappers := List.forall_mem_append.mpr (List.forall_mem_append.mp h.wrappers).symm
  emphasis kind hkind := (h.emphasis kind hkind).symm
  links := h.links.symm

/-- Without wrappers there are no marks: any wrapper of the other chain would be a link or have a kind
that both have. -/
theorem SameMarks.eq_nil {vs : List Node} (h : SameMarks [] vs) : vs = [] := by
  refine List.eq_nil_iff_forall_not_mem.mpr fun v hv => ?_
  by_cases hlink : v.kind = .link
  · have hmem : v.url ∈ (vs.filter fun v => v.kind = .link).map (·.url) :=
      List.mem_map_of_mem (List.mem_filter.mpr ⟨hv, decide_eq_true hlink⟩)
    rw [← h.links] at hmem
    exact absurd hmem List.not_mem_nil
  · obtain ⟨w, hw, -⟩ := (h.emphasis v.kind hlink).mpr ⟨v, hv, rfl⟩
    exact absurd hw List.not_mem_nil

/-- Neither chain is empty without the other. -/
theorem SameMarks.eq_nil_iff {ws vs : List Node} (h : SameMarks ws vs) : ws = [] ↔ vs = [] := by
  constructor
  · rintro rfl
    exact h.eq_nil
  · rintro rfl
    exact h.symm.eq_nil

/-- There is nothing if there are no wrappers and nothing inside. -/
theorem wrap_eq_nil {wrappers ns : List Node} :
    wrap wrappers ns = [] ↔ wrappers = [] ∧ ns = [] := by
  cases wrappers with
  | nil => exact (and_iff_right rfl).symm
  | cons w wrappers => exact iff_of_false (List.cons_ne_nil _ _) fun h => List.cons_ne_nil _ _ h.1

/-- The runs of nodes one after the other. -/
theorem allRuns_append (ns ms : List Node) : allRuns (ns ++ ms) = allRuns ns ++ allRuns ms := by
  induction ns with
  | nil => rfl
  | cons n ns ih => rw [List.cons_append, allRuns_cons, allRuns_cons, ih, List.append_assoc]

/-- The runs of a node depend on its children only through their runs, and on whether it has any. -/
theorem runs_congr (n : Node) {ns ms : List Node} (h : allRuns ns = allRuns ms)
    (hnil : ns = [] ↔ ms = []) :
    runs { n with children := ns } = runs { n with children := ms } := by
  have hempty : ns.isEmpty = ms.isEmpty := by
    rw [Bool.eq_iff_iff, List.isEmpty_iff, List.isEmpty_iff]
    exact hnil
  simp only [runs.eq_def, h, hempty]

/-- How emphasis is nested plays no part. -/
theorem Rewrapped.allRuns_eq {ns ms : List Node} (h : Rewrapped ns ms) :
    allRuns ns = allRuns ms ∧ (ns = [] ↔ ms = []) := by
  induction h with
  | refl ns => exact ⟨rfl, Iff.rfl⟩
  | chain hchain h ih =>
    -- the chains mark runs in the same way, and what they hold is rewrapped itself
    have hwrappers := List.forall_mem_append.mp hchain.wrappers
    rw [allRuns_wrap hwrappers.1, allRuns_wrap hwrappers.2, hchain.chainMark_eq, ih.1, wrap_eq_nil,
      wrap_eq_nil, hchain.eq_nil_iff, ih.2]
    exact ⟨rfl, Iff.rfl⟩
  | inside n h ih =>
    rw [allRuns_cons, allRuns_cons, runs_congr n ih.1 ih.2]
    exact ⟨rfl, iff_of_false (List.cons_ne_nil _ _) (List.cons_ne_nil _ _)⟩
  | append h h' ih ih' =>
    rw [allRuns_append, allRuns_append, ih.1, ih'.1, List.append_eq_nil_iff, List.append_eq_nil_iff,
      ih.2, ih'.2]
    exact ⟨rfl, Iff.rfl⟩

/-- Inline nodes give one run for each leaf, in reading order, with the marks of the nodes above it,
whichever way emphasis is nested. -/
theorem allRuns_leafwise :
    (∀ ns, ∃ leaves, inlineWalk.AreStops none ns leaves ∧ allRuns ns = leaves.map Stop.run) ∧
      ∀ ns ms, Rewrapped ns ms → allRuns ns = allRuns ms :=
  ⟨fun ns => ⟨_, inlineWalk.areStops none ns, allRuns_eq_map_stops none 0 ns⟩,
    fun _ _ h => h.allRuns_eq.1⟩

/-- Two texts and an empty piece of code in a chain of wrappers, a link in a link with an empty
target, and a text that does not show. -/
def inChain (wrappers : List Node) : List Node :=
  wrap wrappers
      [ofText "a", { kind := .text, children := [ofText "b", { kind := .inlineCode }] }] ++
    [{ kind := .softBreak },
      { kind := .link, children := [{ kind := .link, url := "v", children := [ofText "c"] }] },
      { kind := .html, children := [ofText "d"] }]

/-- The outer link counts unless it has no target, and the text below raw HTML is not reached. -/
theorem allRuns_leafwise_inChain :
    let link : Node := { kind := .link, url := "u" }
    let nested := inChain [{ kind := .bold }, link, { kind := .italic }]
    let renested := inChain [link, { kind := .italic }, { kind := .bold }, { kind := .italic }]
    Rewrapped nested renested ∧ allRuns nested = allRuns renested ∧
      ∃ leaves, inlineWalk.AreStops none renested leaves ∧ leaves.map Stop.run =
        [{ text := "a", bold := true, italic := true, link := some "u" },
          { text := "b", bold := true, italic := true, link := some "u" },
          { text := "", bold := true, italic := true, code := true, link := some "u" },
          { text := " " }, { text := "c" }] := by
  intro link nested renested
  -- one chain has italics twice, and the link in another place
  have hchain : SameMarks [{ kind := .bold }, link, { kind := .italic }]
      [link, { kind := .italic }, { kind := .bold }, { kind := .italic }] := by
    refine ⟨by decide, ?_, rfl⟩
    intro kind hkind
    cases kind <;> simp_all [link]
  have hrewrapped : Rewrapped nested renested := .append (.chain hchain (.refl _)) (.refl _)
  obtain ⟨leaves, hleaves, hruns⟩ := allRuns_leafwise.1 renested
  exact ⟨hrewrapped, allRuns_leafwise.2 _ _ hrewrapped, leaves, hleaves, hruns.symm.trans (by rfl)⟩

end Wordsmith.Node
