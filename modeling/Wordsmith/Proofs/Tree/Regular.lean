import Mathlib.Data.List.Basic
import Wordsmith.Tree.Elements

/-!
# Regular trees

A `Node` may stand in any other and have any fields. In a regular tree rows stand in tables and cells
in rows, and nothing else does; what stands for itself has no children; and a text or a mark is found
only where the kind of the node gives it a meaning. Of such trees nothing is passed over when a table
or a text becomes an element (`Node.IsTakenWhole`).
-/

namespace Wordsmith

namespace NodeKind

/-! ## Kinds of nodes

Where a node may stand depends on its kind and on that of its parent, and on nothing else (`mayHold`). -/

/-- Nodes of this kind stand for themselves, with nothing below them. -/
def isLeaf : NodeKind → Bool
  | .text | .inlineCode | .codeBlock | .html | .image | .horizontalRule | .lineBreak
  | .softBreak => true
  | _ => false

/-- Nodes of this kind have a text of their own. -/
def hasText : NodeKind → Bool
  | .text | .inlineCode | .codeBlock | .html => true
  | _ => false

/-- Nodes of this kind may hold nodes of most kinds; tables and rows hold nothing but rows and
cells. -/
def isOpen (kind : NodeKind) : Bool := !kind.isLeaf && kind ≠ .table && kind ≠ .tableRow

/-- A node of kind `child` may stand directly below one of kind `parent`. Nothing may hold a
document. -/
def mayHold (parent child : NodeKind) : Bool :=
  match child with
  | .document => false
  | .tableRow => parent = .table
  | .tableCell => parent = .tableRow
  | _ => parent.isOpen

/-- An open node may hold what a document may hold. -/
theorem mayHold_of_isOpen {parent : NodeKind} (hparent : parent.isOpen = true)
    (child : NodeKind) : parent.mayHold child = NodeKind.document.mayHold child := by
  cases child with
  | document => rfl
  | tableRow | tableCell => cases parent <;> first | rfl | exact absurd hparent (by decide)
  | _ => exact hparent

/-- Nothing may stand below a leaf. -/
theorem mayHold_of_isLeaf {parent : NodeKind} (hparent : parent.isLeaf = true)
    (child : NodeKind) : parent.mayHold child = false := by
  cases child with
  | document => rfl
  | tableRow | tableCell => cases parent <;> first | rfl | exact absurd hparent (by decide)
  | _ => simp [mayHold, isOpen, hparent]

end NodeKind

namespace Node

/-! ## Regular nodes

`IsRegular` looks at a node and the kinds of its children. A tree is regular if all its nodes are,
which is `Throughout IsRegular`. -/

/-- A node and all nodes below it satisfy `P`. -/
inductive Throughout (P : Node → Prop) : Node → Prop where
  | mk {n : Node} (h : P n) (hbelow : ∀ c ∈ n.children, Throughout P c) : Throughout P n

namespace Throughout

variable {P Q : Node → Prop} {n : Node}

/-- The node itself satisfies `P`. -/
theorem holds (h : n.Throughout P) : P n := by
  cases h with
  | mk h _ => exact h

/-- So do its children, with all that is below them. -/
theorem of_mem (h : n.Throughout P) {c : Node} (hc : c ∈ n.children) : c.Throughout P := by
  cases h with
  | mk _ hbelow => exact hbelow c hc

/-- A node and what is below it, unfolded by one level. -/
theorem iff_of_children : n.Throughout P ↔ P n ∧ ∀ c ∈ n.children, c.Throughout P :=
  ⟨fun h => ⟨h.holds, fun _ hc => h.of_mem hc⟩, fun h => .mk h.1 h.2⟩

/-- What holds of a node for reasons found in and below it, holds wherever these reasons do. -/
theorem imp (hPQ : ∀ n : Node, n.Throughout P → Q n) (h : n.Throughout P) : n.Throughout Q := by
  induction h with
  | mk h hbelow ih => exact .mk (hPQ _ (.mk h hbelow)) ih

end Throughout

/-- A node has only children that it may hold, a text only if its kind has one, and a mark only if
it is a task or a cell. -/
@[mk_iff]
structure IsRegular (n : Node) : Prop where
  children : ∀ c ∈ n.children, n.kind.mayHold c.kind = true
  text : n.kind.hasText = false → n.text = []
  checked : n.checked = true → n.kind = .taskListItem
  header : n.header = true → n.kind = .tableCell

namespace IsRegular

variable {n : Node}

/-- There is nothing below a leaf. -/
theorem children_eq_nil (h : n.IsRegular) (hleaf : n.kind.isLeaf = true) : n.children = [] := by
  refine List.eq_nil_iff_forall_not_mem.mpr fun c hc => ?_
  have hheld := h.children c hc
  rw [NodeKind.mayHold_of_isLeaf hleaf] at hheld
  cases hheld

/-- A table holds rows. -/
theorem kind_of_mem_table (h : n.IsRegular) (hkind : n.kind = .table) {c : Node}
    (hc : c ∈ n.children) : c.kind = .tableRow := by
  have hheld := h.children c hc
  rw [hkind] at hheld
  cases hchild : c.kind <;> first | rfl | exact absurd (hchild ▸ hheld) (by decide)

/-- A row holds cells. -/
theorem kind_of_mem_tableRow (h : n.IsRegular) (hkind : n.kind = .tableRow) {c : Node}
    (hc : c ∈ n.children) : c.kind = .tableCell := by
  have hheld := h.children c hc
  rw [hkind] at hheld
  cases hchild : c.kind <;> first | rfl | exact absurd (hchild ▸ hheld) (by decide)

end IsRegular

/-! ## What is made of a regular tree

The writer filters rows and cells out of what stands in a table. In a regular tree the filters change
nothing. -/

/-- A row of a table with all nodes below it for its cells, whatever they are. -/
def wholeRow (n : Node) : Row :=
  ⟨n.children.map fun c => ⟨[.paragraph (allRuns c.children)]⟩,
    !n.children.isEmpty && n.children.all (·.header)⟩

/-- A text node gives its own text, and a table all nodes below it for its rows and all nodes below
these for their cells. -/
structure IsTakenWhole (n : Node) : Prop where
  text : n.kind = .text → n.runs = textRuns n.text
  table : n.kind = .table → n.element? = some (.table (n.children.map wholeRow))

/-- A regular row loses none of its nodes. -/
theorem tableRow_eq_wholeRow {n : Node} (h : n.IsRegular) (hkind : n.kind = .tableRow) :
    n.tableRow = n.wholeRow := by
  unfold tableRow wholeRow
  rw [List.filter_eq_self.mpr fun c hc => decide_eq_true (h.kind_of_mem_tableRow hkind hc)]

/-- In a regular tree no text node has children to show in its stead, and there is nothing in tables
and rows that is not a row or a cell. -/
theorem Throughout.isTakenWhole {n : Node} (h : n.Throughout IsRegular) : n.IsTakenWhole where
  text hkind := by
    -- a text has no children
    have hchildren : n.children = [] := h.holds.children_eq_nil (by rw [hkind]; rfl)
    obtain ⟨kind, children⟩ := n
    cases hkind
    cases hchildren
    rw [runs]
    rfl
  table hkind := by
    -- a table has nothing but rows, so none is left out
    have hrows : ∀ row ∈ n.children, row.kind = .tableRow := fun row hrow =>
      h.holds.kind_of_mem_table hkind hrow
    have hwhole : n.children.map tableRow = n.children.map wholeRow :=
      List.map_congr_left fun row hrow =>
        tableRow_eq_wholeRow (h.of_mem hrow).holds (hrows row hrow)
    unfold element?
    rw [hkind]
    simp only
    rw [List.filter_eq_self.mpr fun row hrow => decide_eq_true (hrows row hrow), hwhole]

end Node

end Wordsmith
