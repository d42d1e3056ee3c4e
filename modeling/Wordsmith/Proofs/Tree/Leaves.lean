import Mathlib.Data.List.Flatten
import Wordsmith.Proofs.Tree.Regular
import Wordsmith.Tree.PlainText

/-!
# The leaves of a tree

What a regular tree shows is what its leaves show, in order (`plainTexts_eq_flatMap`). A leaf shows
the text that it is written with, but for two kinds: a break shows a space although nothing is
written, and HTML is written but not shown. So a text is written as it shows only if there are
neither.

* `Node.leaves` — the nodes that stand for themselves: words, code, breaks, HTML, images.
* `plainText_of_isLeaf` — what a leaf shows, by its kind.
* `flatMap_writtenText_eq_iff_of_html`, `flatMap_writtenText_eq_iff_of_isBreak` — when the texts of the
  leaves, put together, are the text that is shown.
-/

namespace Wordsmith.Node

open List

mutual

/-- The nodes in and below a node that stand for themselves, in order. -/
def leaves : Node → List Node
  | n@{ kind, children, .. } => if kind.isLeaf then [n] else allLeaves children

/-- The leaves of a sequence of nodes, one after another. -/
def allLeaves : List Node → List Node
  | [] => []
  | n :: ns => n.leaves ++ allLeaves ns

end

/-- A leaf is its own only leaf. -/
theorem leaves_of_isLeaf {n : Node} (h : n.kind.isLeaf = true) : n.leaves = [n] := by
  obtain ⟨⟩ := n
  rw [leaves, if_pos h]

/-- Any other node has those of its children. -/
theorem leaves_of_not_isLeaf {n : Node} (h : n.kind.isLeaf = false) :
    n.leaves = allLeaves n.children := by
  obtain ⟨⟩ := n
  rw [leaves, if_neg (by rw [h]; exact Bool.false_ne_true)]

mutual

/-- A leaf of a tree is a node of it. -/
theorem holds_of_mem_leaves {P : Node → Prop} {leaf : Node} (n : Node) (h : n.Throughout P)
    (hleaf : leaf ∈ n.leaves) : leaf.kind.isLeaf = true ∧ P leaf := by
  obtain ⟨kind, children, text, level, language, url, title, alt, align, header, checked, start⟩ :=
    n
  cases hkind : kind.isLeaf with
  | true =>
    rw [leaves_of_isLeaf hkind] at hleaf
    cases List.mem_singleton.mp hleaf
    exact ⟨hkind, h.holds⟩
  | false =>
    rw [leaves_of_not_isLeaf hkind] at hleaf
    exact holds_of_mem_allLeaves children (fun c hc => h.of_mem hc) hleaf

/-- What holds throughout some nodes, holds of their leaves. -/
theorem holds_of_mem_allLeaves {P : Node → Prop} {leaf : Node} (ns : List Node)
    (h : ∀ n ∈ ns, n.Throughout P) (hleaf : leaf ∈ allLeaves ns) :
    leaf.kind.isLeaf = true ∧ P leaf := by
  cases ns with
  | nil => cases hleaf
  | cons n ns =>
    rw [List.forall_mem_cons] at h
    rw [allLeaves, List.mem_append] at hleaf
    rcases hleaf with hleaf | hleaf
    · exact holds_of_mem_leaves n h.1 hleaf
    · exact holds_of_mem_allLeaves ns h.2 hleaf

end

/-! ## What leaves show

A node that is no leaf adds nothing to what its children show: in a regular tree it has no text of its
own, and it is neither a break nor a picture nor HTML. -/

mutual

/-- A regular node shows what its leaves show. -/
theorem plainText_eq_flatMap (n : Node) (h : n.Throughout IsRegular) :
    n.plainText = n.leaves.flatMap plainText := by
  obtain ⟨kind, children, text, level, language, url, title, alt, align, header, checked, start⟩ :=
    n
  cases hleaf : kind.isLeaf with
  | true =>
    rw [leaves_of_isLeaf hleaf]
    exact (List.append_nil _).symm
  | false =>
    -- the kinds that show something by themselves are leaves
    have hbreak : kind.isBreak = false := by cases kind <;> first | rfl | cases hleaf
    have himage : kind ≠ .image := by rintro rfl; cases hleaf
    have hhtml : kind ≠ .html := by rintro rfl; cases hleaf
    have htext : text = [] := h.holds.text (by cases kind <;> first | rfl | cases hleaf)
    rw [leaves_of_not_isLeaf hleaf, plainText, hbreak, if_neg Bool.false_ne_true, if_neg himage,
      if_neg hhtml, htext, List.nil_append]
    exact plainTexts_eq_flatMap children fun c hc => h.of_mem hc

/-- A regular tree shows what its leaves show. -/
theorem plainTexts_eq_flatMap (ns : List Node) (h : ∀ n ∈ ns, n.Throughout IsRegular) :
    plainTexts ns = (allLeaves ns).flatMap plainText := by
  cases ns with
  | nil => rfl
  | cons n ns =>
    rw [List.forall_mem_cons] at h
    rw [plainTexts, allLeaves, List.flatMap_append, plainText_eq_flatMap n h.1,
      plainTexts_eq_flatMap ns h.2]

end

/-! ## What leaves are written with

The text that a leaf brings differs from what it shows in two ways. A break brings none and shows a
space; HTML brings its source and shows nothing. In both cases one of the two texts is empty, so one is
contained in the other, and equality of the whole is equality at every leaf (`flatMap_eq_flatMap_iff`). -/

/-- The text that a leaf is written with: the words of an image, and the text of any other node. -/
def writtenText (n : Node) : Text := if n.kind = .image then n.alt else n.text

section Leaf

variable {n : Node}

/-- A leaf has no children, so its kind decides what it shows. -/
theorem plainText_of_isLeaf (h : n.IsRegular) (hleaf : n.kind.isLeaf = true) :
    n.plainText
      = if n.kind.isBreak then Text.ofString " "
        else if n.kind = .html then []
        else n.writtenText := by
  have hchildren := h.children_eq_nil hleaf
  obtain ⟨kind, children⟩ := n
  cases hchildren
  rw [plainText, plainTexts, List.append_nil]
  cases kind <;> rfl

/-- A break is written without a text. -/
theorem writtenText_of_isBreak (h : n.IsRegular) (hbreak : n.kind.isBreak = true) :
    n.writtenText = [] := by
  unfold writtenText
  cases hkind : n.kind with
  | lineBreak | softBreak => exact h.text (by rw [hkind]; rfl)
  | _ => rw [hkind] at hbreak; cases hbreak

/-- HTML is written and not shown. -/
theorem plainText_of_html (h : n.IsRegular) (hkind : n.kind = .html) :
    n.plainText = [] ∧ n.writtenText = n.text := by
  rw [plainText_of_isLeaf h (by rw [hkind]; rfl), writtenText, hkind]
  exact ⟨rfl, rfl⟩

end Leaf

/-- Two texts put together of the same pieces, each piece of the one contained in that of the other,
are the same only if all pieces are. -/
theorem flatMap_eq_flatMap_iff {α β : Type} {f g : α → List β} {l : List α}
    (h : ∀ a ∈ l, f a <+ g a) : l.flatMap f = l.flatMap g ↔ ∀ a ∈ l, f a = g a := by
  induction l with
  | nil => exact ⟨fun _ => List.forall_mem_nil _, fun _ => rfl⟩
  | cons a l ih =>
    rw [List.forall_mem_cons] at h ⊢
    rw [List.flatMap_cons, List.flatMap_cons, ← ih h.2]
    refine ⟨fun heq => ?_, fun heq => by rw [heq.1, heq.2]⟩
    -- the lengths can only add up if neither the first nor the rest falls short
    have hfirst := h.1.length_le
    have hrest := (List.Sublist.flatMap_right l h.2).length_le
    have hlength := congrArg List.length heq
    rw [List.length_append, List.length_append] at hlength
    exact List.append_inj heq (by omega)

section Leaves

variable {ns : List Node}

/-- Without HTML, a text is written as it shows if and only if there is no break in it. -/
theorem flatMap_writtenText_eq_iff_of_html (h : ∀ n ∈ ns, n.Throughout IsRegular)
    (hhtml : ∀ n ∈ allLeaves ns, n.kind = .html → n.text = []) :
    (allLeaves ns).flatMap writtenText = plainTexts ns
      ↔ ∀ n ∈ allLeaves ns, n.kind.isBreak = false := by
  -- with the HTML gone, only breaks differ
  have hleaf : ∀ n ∈ allLeaves ns, n.plainText
      = if n.kind.isBreak then Text.ofString " " else n.writtenText := by
    intro n hn
    obtain ⟨hkind, hregular⟩ := holds_of_mem_allLeaves ns h hn
    rw [plainText_of_isLeaf hregular hkind]
    split_ifs with hbreak hkind
    · rfl
    · rw [(plainText_of_html hregular hkind).2, hhtml n hn hkind]
    · rfl
  have hwritten : ∀ n ∈ allLeaves ns, n.kind.isBreak = true → n.writtenText = [] :=
    fun n hn => writtenText_of_isBreak (holds_of_mem_allLeaves ns h hn).2
  rw [plainTexts_eq_flatMap ns h, flatMap_eq_flatMap_iff]
  · refine forall₂_congr fun n hn => ?_
    rw [hleaf n hn]
    cases hbreak : n.kind.isBreak with
    | true =>
      rw [hwritten n hn hbreak]
      exact ⟨nofun, nofun⟩
    | false => exact ⟨fun _ => rfl, fun _ => rfl⟩
  · intro n hn
    rw [hleaf n hn]
    split_ifs with hbreak
    · rw [hwritten n hn hbreak]
      exact List.nil_sublist _
    · exact List.Sublist.refl _

/-- Without breaks, a text is written as it shows if and only if there is no HTML in it. -/
theorem flatMap_writtenText_eq_iff_of_isBreak (h : ∀ n ∈ ns, n.Throughout IsRegular)
    (hbreaks : ∀ n ∈ allLeaves ns, n.kind.isBreak = false) :
    (allLeaves ns).flatMap writtenText = plainTexts ns
      ↔ ∀ n ∈ allLeaves ns, n.kind = .html → n.text = [] := by
  -- with the breaks gone, only HTML differs
  have hleaf : ∀ n ∈ allLeaves ns, n.plainText = if n.kind = .html then [] else n.writtenText := by
    intro n hn
    obtain ⟨hkind, hregular⟩ := holds_of_mem_allLeaves ns h hn
    rw [plainText_of_isLeaf hregular hkind, hbreaks n hn]
    rfl
  rw [plainTexts_eq_flatMap ns h, eq_comm, flatMap_eq_flatMap_iff]
  · refine forall₂_congr fun n hn => ?_
    rw [hleaf n hn]
    split_ifs with hkind
    · rw [(plainText_of_html (holds_of_mem_allLeaves ns h hn).2 hkind).2]
      exact ⟨fun hnil _ => hnil.symm, fun hnil => (hnil hkind).symm⟩
    · exact ⟨fun _ hhtml => absurd hhtml hkind, fun _ => rfl⟩
  · intro n hn
    rw [hleaf n hn]
    split_ifs with hkind
    · exact List.nil_sublist _
    · exact List.Sublist.refl _

end Leaves

end Wordsmith.Node
