import Wordsmith.Document.Element
import Wordsmith.Text.Blank
import Wordsmith.Tree.PlainText
import Wordsmith.Tree.Runs

/-!
# The elements of a tree

Each block of the tree becomes at most one element, in order. A nested list is flattened into its
parent, after the item it stands in. A block without a counterpart is dropped.
-/

namespace Wordsmith.Node

/-- The mark in front of a task: a box, ticked or empty. -/
def checkbox (checked : Bool) : Text := if checked then "☑ " else "☐ "

/-- The runs that a child contributes to the quotation it stands in: those of a paragraph, and the
text of a stray text node. -/
def quoteRuns (n : Node) : List Run :=
  match n.kind with
  | .paragraph => allRuns n.children
  | .text => textRuns n.text
  | _ => []

/-- The runs that a child contributes to the list item it stands in: those of a paragraph, the text
of a text node that has some, and what any other node gives inside a line. -/
def itemRuns (n : Node) : List Run :=
  match n.kind with
  | .paragraph => allRuns n.children
  | .text => if n.text.isEmpty then n.runs else [{ text := n.text }]
  | _ => n.runs

/-- The runs of the children that are no lists. -/
def ownRuns (children : List Node) : List Run :=
  (children.filter fun n => !n.kind.isList).flatMap itemRuns

mutual

/-- The entries of a list that stands at this level. -/
def listItems (level : Nat) : List Node → List ListItem
  | [] => []
  | { kind, children, checked, .. } :: ns =>
    if kind.isItem then
      let box : List Run := if kind = .taskListItem then [{ text := checkbox checked }] else []
      { runs := box ++ ownRuns children, level } ::
        nestedItems (level + 1) children ++ listItems level ns
    -- what is no item is passed over
    else listItems level ns
termination_by ns => sizeOf ns
decreasing_by all_goals simp only [List.cons.sizeOf_spec, mk.sizeOf_spec]; omega

/-- The entries of the lists among the children of an item. -/
def nestedItems (level : Nat) : List Node → List ListItem
  | [] => []
  | { kind, children, .. } :: ns =>
    if kind.isList then listItems level children ++ nestedItems level ns
    else nestedItems level ns
termination_by ns => sizeOf ns
decreasing_by all_goals simp only [List.cons.sizeOf_spec, mk.sizeOf_spec]; omega

end

/-- A text node that shows nothing. -/
def isInvisible (n : Node) : Bool := n.kind = .text && n.text.isBlank && n.children.isEmpty

/-- The image that is all that a paragraph shows. -/
def soleImage? (children : List Node) : Option Node :=
  match children.filter (!·.isInvisible) with
  | [n] => if n.kind = .image then some n else none
  | _ => none

/-- A row of a table: each cell holds one paragraph. -/
def tableRow (n : Node) : Row :=
  let cells := n.children.filter fun c => c.kind = .tableCell
  ⟨cells.map fun c => ⟨[.paragraph (allRuns c.children)]⟩,
    -- an empty row is no header
    !n.children.isEmpty && n.children.all (·.header)⟩

def imageElement (n : Node) : Element := .image n.alt n.url

/-- The element of a block, absent if blocks of its kind have none. -/
def element? (n : Node) : Option Element :=
  match n.kind with
  | .heading => some (.heading n.level n.plainText)
  | .paragraph =>
    -- a picture with nothing beside it is a block of its own
    match soleImage? n.children with
    | some image => some image.imageElement
    | none => some (.paragraph (allRuns n.children))
  | .text => if n.text.isEmpty then none else some (.paragraph [{ text := n.text }])
  | .unorderedList => some (.bulletList (listItems 0 n.children))
  | .orderedList => some (.numberedList (listItems 0 n.children))
  | .codeBlock => some (.codeBlock (if n.language.isEmpty then none else some n.language) n.text)
  | .quote => some (.quote (n.children.flatMap quoteRuns))
  | .table =>
    some (.table ((n.children.filter fun row => row.kind = .tableRow).map tableRow))
  | .horizontalRule => some .horizontalRule
  | .image => some n.imageElement
  | _ => none

/-- The elements of a document, in the order of the blocks they come from. -/
def elements (document : Node) : List Element := document.children.filterMap element?

end Wordsmith.Node
