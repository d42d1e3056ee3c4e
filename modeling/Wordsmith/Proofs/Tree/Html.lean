import Mathlib.Data.List.Basic
import Wordsmith.Tree.Elements

/-!
# Raw HTML in a tree

A tree keeps the text of raw HTML, and every function that makes elements of it passes over such
nodes: they give no runs, no words and no blocks. So the elements of a tree are those of the tree
with the texts of its HTML left blank (`Node.elements_withoutHtml`).

* `Node.withoutHtml`: a tree whose HTML says nothing.
* `runs_withoutHtml`, `plainText_withoutHtml`: a node of raw HTML has no runs and no words, so the
  functions that gather them never look at its text.
* `listItems_withoutHtml`, `tableRow_withoutHtml`: lists and tables choose their children by kind, and
  kinds stay.
* `element?_withoutHtml`: so each block gives the same element, or none, with and without the text of
  its HTML.

Where the text of a node is read, for its words, its runs, a paragraph of text or a block of code, the
kind of the node is known and it is not that of HTML.
-/

namespace Wordsmith.Node

mutual

/-- A node with the texts of raw HTML, its own and those below it, left blank. -/
def withoutHtml : Node → Node
  | ⟨kind, children, text, level, language, url, title, alt, align, header, checked, start⟩ =>
    ⟨kind, allWithoutHtml children, if kind = .html then [] else text, level, language, url, title,
      alt, align, header, checked, start⟩

def allWithoutHtml : List Node → List Node
  | [] => []
  | n :: ns => n.withoutHtml :: allWithoutHtml ns

end

theorem allWithoutHtml_eq (ns : List Node) : allWithoutHtml ns = ns.map withoutHtml := by
  induction ns with
  | nil => rfl
  | cons n ns ih => rw [allWithoutHtml, ih, List.map_cons]

section Fields

variable (n : Node)

/-! Everything but the text and the children stays as it is. -/

@[simp] theorem kind_withoutHtml : n.withoutHtml.kind = n.kind := by
  cases n
  rfl

@[simp] theorem children_withoutHtml : n.withoutHtml.children = n.children.map withoutHtml := by
  cases n
  exact allWithoutHtml_eq _

theorem text_withoutHtml (h : n.kind ≠ .html) : n.withoutHtml.text = n.text := by
  cases n
  exact if_neg h

@[simp] theorem level_withoutHtml : n.withoutHtml.level = n.level := by
  cases n
  rfl

@[simp] theorem language_withoutHtml : n.withoutHtml.language = n.language := by
  cases n
  rfl

@[simp] theorem url_withoutHtml : n.withoutHtml.url = n.url := by
  cases n
  rfl

@[simp] theorem alt_withoutHtml : n.withoutHtml.alt = n.alt := by
  cases n
  rfl

@[simp] theorem header_withoutHtml : n.withoutHtml.header = n.header := by
  cases n
  rfl

end Fields

/-! ## Words and runs

Both are gathered by recursion over the whole tree. The two statements of each block are proved
together, one for a node and one for its children. -/

mutual

theorem plainText_withoutHtml (n : Node) : n.withoutHtml.plainText = n.plainText := by
  obtain ⟨kind, children, text, level, language, url, title, alt, align, header, checked, start⟩ :=
    n
  rw [withoutHtml, plainText, plainText, plainTexts_withoutHtml children]
  -- HTML shows no words, and any other node keeps its text
  by_cases hkind : kind = .html
  · rw [hkind]
    rfl
  · simp only [if_neg hkind]

theorem plainTexts_withoutHtml (ns : List Node) :
    plainTexts (allWithoutHtml ns) = plainTexts ns := by
  cases ns with
  | nil => rfl
  | cons n ns =>
    rw [allWithoutHtml, plainTexts, plainTexts, plainText_withoutHtml n, plainTexts_withoutHtml ns]

end

mutual

theorem runs_withoutHtml (n : Node) : n.withoutHtml.runs = n.runs := by
  obtain ⟨kind, children, text, level, language, url, title, alt, align, header, checked, start⟩ :=
    n
  -- a text node shows its text only if it has no children
  have hempty : (allWithoutHtml children).isEmpty = children.isEmpty := by
    rw [allWithoutHtml_eq, List.isEmpty_map]
  rw [withoutHtml, runs.eq_def, runs.eq_def]
  dsimp only
  rw [hempty, allRuns_withoutHtml children]
  cases kind <;> rfl

theorem allRuns_withoutHtml (ns : List Node) : allRuns (allWithoutHtml ns) = allRuns ns := by
  cases ns with
  | nil => rfl
  | cons n ns => rw [allWithoutHtml, allRuns, allRuns, runs_withoutHtml n, allRuns_withoutHtml ns]

end

/-! ## Lists

Items are found by walking down through lists and items in turn. The walk hands down the level and
looks at the kinds of nodes alone, so blanking the texts of HTML commutes with every filter of children
(`filter_withoutHtml`). -/

theorem allRuns_map_withoutHtml (ns : List Node) : allRuns (ns.map withoutHtml) = allRuns ns := by
  rw [← allWithoutHtml_eq, allRuns_withoutHtml]

/-- A quotation shows the text of stray text nodes and no other text of a child. -/
theorem quoteRuns_withoutHtml (n : Node) : n.withoutHtml.quoteRuns = n.quoteRuns := by
  unfold quoteRuns
  rw [kind_withoutHtml, children_withoutHtml, allRuns_map_withoutHtml]
  split
  · rfl
  · rename_i hkind
    rw [n.text_withoutHtml (by rw [hkind]; decide)]
  · rfl

theorem itemRuns_withoutHtml (n : Node) : n.withoutHtml.itemRuns = n.itemRuns := by
  unfold itemRuns
  rw [kind_withoutHtml, children_withoutHtml, allRuns_map_withoutHtml, runs_withoutHtml]
  split
  · rfl
  · -- only of a text node is the text read
    rename_i hkind
    rw [n.text_withoutHtml (by rw [hkind]; decide)]
  · rfl

/-- Children are told apart by their kinds, which stay. -/
theorem filter_withoutHtml {p : Node → Bool} (h : ∀ n, p n.withoutHtml = p n) (ns : List Node) :
    (ns.map withoutHtml).filter p = (ns.filter p).map withoutHtml := by
  rw [List.filter_map]
  exact congrArg _ (List.filter_congr fun n _ => h n)

theorem ownRuns_withoutHtml (ns : List Node) : ownRuns (ns.map withoutHtml) = ownRuns ns := by
  unfold ownRuns
  rw [filter_withoutHtml (fun n => by rw [kind_withoutHtml]), List.flatMap_map]
  exact List.flatMap_congr fun n _ => n.itemRuns_withoutHtml

mutual

theorem listItems_withoutHtml (level : Nat) (ns : List Node) :
    listItems level (allWithoutHtml ns) = listItems level ns := by
  cases ns with
  | nil => rfl
  | cons n ns =>
    obtain ⟨kind, children, text, _, language, url, title, alt, align, header, checked, start⟩ := n
    rw [allWithoutHtml, withoutHtml, listItems, listItems, nestedItems_withoutHtml _ children,
      listItems_withoutHtml level ns, allWithoutHtml_eq children, ownRuns_withoutHtml]
termination_by sizeOf ns
decreasing_by all_goals simp only [List.cons.sizeOf_spec, mk.sizeOf_spec]; omega

theorem nestedItems_withoutHtml (level : Nat) (ns : List Node) :
    nestedItems level (allWithoutHtml ns) = nestedItems level ns := by
  cases ns with
  | nil => rfl
  | cons n ns =>
    obtain ⟨kind, children, text, _, language, url, title, alt, align, header, checked, start⟩ := n
    rw [allWithoutHtml, withoutHtml, nestedItems, nestedItems, listItems_withoutHtml level children,
      nestedItems_withoutHtml level ns]
termination_by sizeOf ns
decreasing_by all_goals simp only [List.cons.sizeOf_spec, mk.sizeOf_spec]; omega

end

/-! ## Blocks

A block becomes an element by its kind. Where the text of the node itself is used, for text and for
code, the kind excludes HTML (`text_withoutHtml`). -/

/-- Text is invisible if it is blank, which concerns text nodes alone. -/
theorem isInvisible_withoutHtml (n : Node) : n.withoutHtml.isInvisible = n.isInvisible := by
  unfold isInvisible
  rw [kind_withoutHtml, children_withoutHtml, List.isEmpty_map]
  by_cases hkind : n.kind = .text
  · rw [n.text_withoutHtml (by rw [hkind]; decide)]
  · simp only [hkind, decide_false, Bool.false_and]

/-- A paragraph that shows a single image still shows it, and no other paragraph begins to. -/
theorem soleImage?_withoutHtml (ns : List Node) :
    soleImage? (ns.map withoutHtml) = (soleImage? ns).map withoutHtml := by
  unfold soleImage?
  rw [filter_withoutHtml (fun n => by rw [isInvisible_withoutHtml])]
  -- one visible child, and an image; or else there is no sole image
  cases ns.filter (!·.isInvisible) with
  | nil => rfl
  | cons n rest =>
    cases rest with
    | nil =>
      simp only [List.map_singleton, kind_withoutHtml]
      split <;> rfl
    | cons m rest => rfl

theorem tableRow_withoutHtml (n : Node) : n.withoutHtml.tableRow = n.tableRow := by
  unfold tableRow
  dsimp only
  rw [children_withoutHtml, filter_withoutHtml (fun c => by rw [kind_withoutHtml]), List.map_map,
    List.isEmpty_map, List.all_map]
  -- the cells on the one hand, the mark of a header row on the other
  congr 1
  · apply List.map_congr_left
    intro c _
    simp only [Function.comp_apply, children_withoutHtml, allRuns_map_withoutHtml]
  · congr 2
    funext c
    exact c.header_withoutHtml

theorem imageElement_withoutHtml (n : Node) : n.withoutHtml.imageElement = n.imageElement := by
  unfold imageElement
  rw [alt_withoutHtml, url_withoutHtml]

theorem element?_withoutHtml (n : Node) : n.withoutHtml.element? = n.element? := by
  unfold element?
  rw [kind_withoutHtml, children_withoutHtml]
  cases hkind : n.kind with
  | heading => simp only [level_withoutHtml, plainText_withoutHtml]
  | paragraph =>
    simp only [soleImage?_withoutHtml, allRuns_map_withoutHtml]
    -- a paragraph with nothing but an image is that image, and counts as one with its HTML, too
    cases soleImage? n.children with
    | none => rfl
    | some image => exact congrArg some image.imageElement_withoutHtml
  | text => simp only [n.text_withoutHtml (by rw [hkind]; decide)]
  | unorderedList => simp only [← allWithoutHtml_eq, listItems_withoutHtml]
  | orderedList => simp only [← allWithoutHtml_eq, listItems_withoutHtml]
  | codeBlock => simp only [n.text_withoutHtml (by rw [hkind]; decide), language_withoutHtml]
  | quote => simp only [List.flatMap_map, quoteRuns_withoutHtml]
  | table =>
    dsimp only
    -- rows are found by their kind, which stays
    rw [filter_withoutHtml (fun row => by rw [kind_withoutHtml]), List.map_map]
    exact congrArg (fun f => some (Element.table (List.map f _))) (funext tableRow_withoutHtml)
  | image => simp only [imageElement_withoutHtml]
  | _ => rfl

/-- The elements of a document do not show the text of raw HTML. -/
theorem elements_withoutHtml (document : Node) :
    document.withoutHtml.elements = document.elements := by
  unfold elements
  rw [children_withoutHtml, List.filterMap_map]
  exact congrArg (List.filterMap · _) (funext element?_withoutHtml)

end Wordsmith.Node
