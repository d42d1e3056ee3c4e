import Wordsmith.Proofs.Tree.Inline
import Wordsmith.Proofs.Tree.Regular

/-!
# The words of headings and paragraphs

A heading stores the visible text of the nodes in it, and a paragraph the runs that they give. The two
are computed separately and show the same words, pictures apart: a picture reads as the words for it
in a heading, and gives no run in a paragraph (`Node.allText_allRuns`). So a paragraph without
pictures can be made a heading and keeps its words.
-/

namespace Wordsmith

namespace NodeKind

/-- Nodes of this kind stand for themselves inside a line. -/
def isInlineLeaf : NodeKind → Bool
  | .text | .inlineCode | .softBreak | .lineBreak | .html | .image => true
  | _ => false

/-- Nodes of this kind mark what is below them. -/
def isWrapper : NodeKind → Bool
  | .bold | .italic | .strikethrough | .link => true
  | _ => false

end NodeKind

namespace Node

/-- A node of a line: it stands for itself with nothing below it, or marks what is below it and has
no text of its own. -/
inductive IsInline (n : Node) : Prop where
  | leaf (hkind : n.kind.isInlineLeaf = true) (hchildren : n.children = [])
  | wrapper (hkind : n.kind.isWrapper = true) (htext : n.text = [])

/-! ## Pictures without words

Pictures are the one difference between the two. `withoutAlts` takes their words away, and leaves the
rest of the tree as it is. -/

mutual

/-- A node with the words for images, itself and those below it, left blank. -/
def withoutAlts : Node → Node
  | ⟨kind, children, text, level, language, url, title, alt, align, header, checked, start⟩ =>
    ⟨kind, allWithoutAlts children, text, level, language, url, title,
      if kind = .image then [] else alt, align, header, checked, start⟩

/-- The same of a sequence of nodes. -/
def allWithoutAlts : List Node → List Node
  | [] => []
  | n :: ns => n.withoutAlts :: allWithoutAlts ns

end

/-- It is done node by node. -/
theorem allWithoutAlts_eq (ns : List Node) : allWithoutAlts ns = ns.map withoutAlts := by
  induction ns with
  | nil => rfl
  | cons n ns ih => rw [allWithoutAlts, ih, List.map_cons]

mutual

/-- A node without images in it is left as it is. -/
theorem withoutAlts_of_pictureless (n : Node) (h : n.Throughout fun m => m.kind ≠ .image) :
    n.withoutAlts = n := by
  obtain ⟨kind, children, text, level, language, url, title, alt, align, header, checked, start⟩ :=
    n
  have hkind : kind ≠ .image := h.holds
  rw [withoutAlts, if_neg hkind, allWithoutAlts_of_pictureless children fun c hc => h.of_mem hc]

/-- Where there are no images, nothing is left blank. -/
theorem allWithoutAlts_of_pictureless (ns : List Node)
    (h : ∀ n ∈ ns, n.Throughout fun m => m.kind ≠ .image) : allWithoutAlts ns = ns := by
  cases ns with
  | nil => rfl
  | cons n ns =>
    rw [List.forall_mem_cons] at h
    rw [allWithoutAlts, withoutAlts_of_pictureless n h.1, allWithoutAlts_of_pictureless ns h.2]

end

/-! ## Runs and words

Node by node: what stands for itself shows its text both ways, and a wrapper shows what is below it.
The marks of the runs play no part in their text. -/

/-- A node that stands for itself. -/
theorem allText_runs_of_leaf {n : Node} (hkind : n.kind.isInlineLeaf = true)
    (hchildren : n.children = []) : Run.allText n.runs = n.withoutAlts.plainText := by
  obtain ⟨kind, children, text⟩ := n
  cases hchildren
  cases kind with
  | text =>
    -- an empty text gives no run, and shows nothing
    cases text <;> exact rfl
  | inlineCode => exact rfl
  | softBreak | lineBreak | html | image => rfl
  | _ => cases hkind

/-- Each kind of wrapper marks runs. -/
theorem exists_marking? {kind : NodeKind} (h : kind.isWrapper = true) (url : Text) :
    ∃ mark, marking? kind url = some mark := by
  cases kind <;> first | exact ⟨_, rfl⟩ | cases h

/-- A wrapper shows what is below it, as runs and as words. -/
theorem allText_runs_of_wrapper {n : Node} (hkind : n.kind.isWrapper = true) (htext : n.text = [])
    (hbelow : Run.allText (allRuns n.children) = plainTexts (allWithoutAlts n.children)) :
    Run.allText n.runs = n.withoutAlts.plainText := by
  obtain ⟨mark, hmark⟩ := exists_marking? hkind n.url
  rw [runs_of_marking? hmark, Run.allText_map (text_of_marking? hmark), hbelow]
  obtain ⟨kind, children, text⟩ := n
  cases htext
  cases kind <;> first | rfl | cases hkind

mutual

/-- A node of a line. -/
theorem allText_runs (n : Node) (h : n.Throughout IsInline) :
    Run.allText n.runs = n.withoutAlts.plainText := by
  obtain ⟨kind, children, text, level, language, url, title, alt, align, header, checked, start⟩ :=
    n
  cases h.holds with
  | leaf hkind hchildren => exact allText_runs_of_leaf hkind hchildren
  | wrapper hkind htext =>
    exact allText_runs_of_wrapper hkind htext
      (allText_allRuns_blank children fun c hc => h.of_mem hc)

/-- The nodes of a line. -/
theorem allText_allRuns_blank (ns : List Node) (h : ∀ n ∈ ns, n.Throughout IsInline) :
    Run.allText (allRuns ns) = plainTexts (allWithoutAlts ns) := by
  cases ns with
  | nil => rfl
  | cons n ns =>
    rw [List.forall_mem_cons] at h
    rw [allRuns_cons, Run.allText_append, allWithoutAlts, plainTexts_cons, allText_runs n h.1,
      allText_allRuns_blank ns h.2]

end

/-- Runs and words of the nodes of a line agree once the words for images are left blank. Without
images, a paragraph of such nodes gives the words that it stores as a heading. -/
theorem allText_allRuns :
    (∀ ns : List Node, (∀ n ∈ ns, n.Throughout IsInline) →
      Run.allText (allRuns ns) = plainTexts (ns.map withoutAlts)) ∧
    ∀ n : Node, n.kind = .paragraph → n.text = [] → (∀ c ∈ n.children, c.Throughout IsInline) →
      (∀ c ∈ n.children, c.Throughout fun m => m.kind ≠ .image) →
      ∃ runs, n.element? = some (.paragraph runs) ∧ ∀ level,
        element? { n with kind := .heading, level } = some (.heading level (Run.allText runs)) := by
  have hwords : ∀ ns : List Node, (∀ n ∈ ns, n.Throughout IsInline) →
      Run.allText (allRuns ns) = plainTexts (ns.map withoutAlts) := fun ns h => by
    rw [allText_allRuns_blank ns h, allWithoutAlts_eq]
  refine ⟨hwords, fun n hkind htext hinline himages => ?_⟩
  refine ⟨allRuns n.children, element?_paragraph hkind fun c hc => (himages c hc).holds, ?_⟩
  intro level
  -- a heading of the same content shows its words, which are those of the runs
  have hheading : plainText { n with kind := .heading, level } = plainTexts n.children := by
    rw [plainText, htext]
    rfl
  rw [hwords _ hinline, ← allWithoutAlts_eq, allWithoutAlts_of_pictureless _ himages, ← hheading]
  rfl

/-- A line with a wrapper of each kind and something of each kind in it, but for an image. -/
def wordyLine : List Node :=
  [{ kind := .bold, children :=
      [ofText "a", { kind := .link, url := "u", children :=
        [{ kind := .inlineCode, text := "b" }, { kind := .softBreak }, ofText []] }] },
    { kind := .strikethrough, children :=
      [{ kind := .html, text := "<i>" }, { kind := .italic }, ofText "c"] },
    { kind := .lineBreak }]

/-- There are only inline nodes in it, and no image. -/
theorem pictureless_wordyLine :
    ∀ n ∈ wordyLine, n.Throughout fun m => m.IsInline ∧ m.kind ≠ .image := by
  have hleaf : ∀ n : Node, n.kind.isInlineLeaf = true → n.children = [] → n.kind ≠ .image →
      n.Throughout fun m => m.IsInline ∧ m.kind ≠ .image :=
    fun n hkind hchildren himage =>
      .mk ⟨.leaf hkind hchildren, himage⟩ (by rw [hchildren]; exact nofun)
  have hlink : ∀ n ∈ ([{ kind := .inlineCode, text := "b" }, { kind := .softBreak }, ofText []] :
      List Node), n.Throughout fun m => m.IsInline ∧ m.kind ≠ .image := by
    simp only [List.forall_mem_cons]
    exact ⟨hleaf _ rfl rfl nofun, hleaf _ rfl rfl nofun, hleaf _ rfl rfl nofun, nofun⟩
  simp only [wordyLine, List.forall_mem_cons]
  refine ⟨.mk ⟨.wrapper rfl rfl, nofun⟩ ?_, .mk ⟨.wrapper rfl rfl, nofun⟩ ?_,
    hleaf _ rfl rfl nofun, nofun⟩
  · simp only [List.forall_mem_cons]
    exact ⟨hleaf _ rfl rfl nofun, .mk ⟨.wrapper rfl rfl, nofun⟩ hlink, nofun⟩
  · simp only [List.forall_mem_cons]
    exact ⟨hleaf _ rfl rfl nofun, .mk ⟨.wrapper rfl rfl, nofun⟩ nofun, hleaf _ rfl rfl nofun, nofun⟩

/-- With an image behind it, the line reads differently as a heading; without, it does not. -/
theorem allText_allRuns_wordyLine :
    let pictured : List Node := wordyLine ++ [{ kind := .italic, children :=
      [{ kind := .image, alt := "picture" }, ofText "d"] }]
    let paragraph : Node := { kind := .paragraph, children := wordyLine }
    (Run.allText (allRuns pictured) = plainTexts (pictured.map withoutAlts) ∧
      Run.allText (allRuns pictured) = Text.ofString "ab c d" ∧
      plainTexts pictured = Text.ofString "ab c pictured") ∧
    ∃ runs, paragraph.element? = some (.paragraph runs) ∧ Run.allText runs = Text.ofString "ab c " ∧
      ∀ level, element? { paragraph with kind := .heading, level }
        = some (.heading level (Run.allText runs)) := by
  intro pictured paragraph
  have hline : ∀ n ∈ wordyLine, n.Throughout IsInline :=
    fun n hn => (pictureless_wordyLine n hn).imp fun _ h => h.holds.1
  have himages : ∀ n ∈ wordyLine, n.Throughout fun m => m.kind ≠ .image :=
    fun n hn => (pictureless_wordyLine n hn).imp fun _ h => h.holds.2
  have hpicture : Throughout IsInline { kind := .italic, children :=
      [{ kind := .image, alt := "picture" }, ofText "d"] } := by
    refine .mk (.wrapper rfl rfl) ?_
    simp only [List.forall_mem_cons]
    exact ⟨.mk (.leaf rfl rfl) nofun, .mk (.leaf rfl rfl) nofun, nofun⟩
  have hpictured : ∀ n ∈ pictured, n.Throughout IsInline :=
    List.forall_mem_append.mpr ⟨hline, List.forall_mem_singleton.mpr hpicture⟩
  -- without the picture, a heading of the same content shows the same words
  obtain ⟨runs, hparagraph, hheading⟩ := allText_allRuns.2 paragraph rfl rfl hline himages
  refine ⟨⟨allText_allRuns.1 pictured hpictured, by rfl, by rfl⟩, runs, hparagraph, ?_, hheading⟩
  cases hparagraph
  rfl

end Node

end Wordsmith
