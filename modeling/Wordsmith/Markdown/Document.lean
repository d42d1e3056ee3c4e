import Wordsmith.Markdown.Inline
import Wordsmith.Markdown.Outline
import Wordsmith.Text.Decoding
import Wordsmith.Tree.Node

/-!
# The tree of a Markdown text

Blocks and spans become nodes one by one; neighbouring items with one mark become a list. The inline
content of every block is read with the definitions of the whole document, wherever they stand.
-/

namespace Wordsmith.Markdown

namespace Span

mutual

/-- The words of a span, as an image shows them. -/
def words : Span → Text
  | .text t => t
  | .code t => t
  | .html t => t
  | .softBreak => []
  | .hardBreak => []
  | .emphasis content => allWords content
  | .strong content => allWords content
  | .struck content => allWords content
  | .link _ content => allWords content
  | .image _ content => allWords content

def allWords : List Span → Text
  | [] => []
  | s :: ss => s.words ++ allWords ss

end

mutual

def node : Span → Node
  | .text t => .ofText t
  | .code t => { kind := .inlineCode, text := t }
  | .html t => { kind := .html, text := t }
  | .softBreak => { kind := .softBreak }
  | .hardBreak => { kind := .lineBreak }
  | .emphasis content => { kind := .italic, children := nodes content }
  | .strong content => { kind := .bold, children := nodes content }
  | .struck content => { kind := .strikethrough, children := nodes content }
  | .link target content =>
    { kind := .link, url := target.url, title := target.title, children := nodes content }
  | .image target content =>
    { kind := .image, url := target.url, title := target.title, alt := allWords content }

def nodes : List Span → List Node
  | [] => []
  | s :: ss => s.node :: nodes ss

end

end Span

def inlineNodes (definitions : List Definition) (t : Text) : List Node :=
  Span.nodes (Span.ofText definitions t)

/-- The box in front of an item's text: whether it is ticked, and the text after it. -/
def box? (t : Text) : Option (Bool × Text) :=
  match t with
  | a :: b :: c :: d :: rest =>
    if a = '[' && c = ']' && isGap d then
      let rest := rest.dropWhile isGap
      if b.isIn "xX" then some (true, rest) else if b = ' ' then some (false, rest) else none
    else none
  | _ => none

def rowNode (definitions : List Definition) (alignments : List (Option Alignment)) (header : Bool)
    (cells : List Text) : Node :=
  { kind := .tableRow
    children := (alignments.zip cells).map fun (alignment, cell) =>
      { kind := .tableCell
        children := inlineNodes definitions cell
        align := alignment.elim [] fun a => Text.ofString a.name
        header } }

/-- What a block shows. -/
inductive Shown where
  | nothing
  | node (n : Node)
  | item (mark : ListMark) (number : Nat) (n : Node)

/-- A list that may still go on; its items are held last one first. -/
structure OpenList where
  mark : ListMark
  /-- The number of the first item. -/
  number : Nat
  items : List Node

/-- The node of a list. -/
def OpenList.node (l : OpenList) : Node :=
  match l.mark with
  | .bullet _ => { kind := .unorderedList, children := l.items.reverse }
  | .ordered _ =>
    { kind := .orderedList
      children := l.items.reverse
      -- a list that starts at zero counts from one
      start := if l.number = 0 then 1 else (l.number : Int) }

namespace Shown

/-- The nodes of what a sequence of blocks shows, after a list that may still go on. -/
def gatherAfter (before : Option OpenList) : List Shown → List Node
  | [] => before.toList.map (·.node)
  | .nothing :: rest => before.toList.map (·.node) ++ gatherAfter none rest
  | .node n :: rest => before.toList.map (·.node) ++ n :: gatherAfter none rest
  | .item mark number n :: rest =>
    match before with
    | some l =>
      -- neighbouring items with one mark make a list
      if l.mark = mark then gatherAfter (some { l with items := n :: l.items }) rest
      else l.node :: gatherAfter (some ⟨mark, number, [n]⟩) rest
    | none => gatherAfter (some ⟨mark, number, [n]⟩) rest

/-- The nodes of what a sequence of blocks shows. -/
def gather (shown : List Shown) : List Node := gatherAfter none shown

end Shown

namespace Block

mutual

def shown (definitions : List Definition) : Block → Shown
  | .heading level text =>
    .node { kind := .heading, level, children := inlineNodes definitions text }
  | .paragraph text => .node { kind := .paragraph, children := inlineNodes definitions text }
  | .definition _ => .nothing
  | .code info text => .node { kind := .codeBlock, text, language := info }
  | .html text => .node { kind := .html, text }
  | .rule => .node { kind := .horizontalRule }
  | .table alignments header rows =>
    .node
      { kind := .table
        children :=
          rowNode definitions alignments true header ::
            rows.map (rowNode definitions alignments false) }
  | .quote content =>
    .node { kind := .quote, children := Shown.gather (allShown definitions content) }
  -- only an item that starts with a paragraph can have a box
  | .item mark number (.paragraph text :: rest) =>
    let paragraph (text : Text) : Shown :=
      .node { kind := .paragraph, children := inlineNodes definitions text }
    let rest := allShown definitions rest
    .item mark number
      (match box? text with
      | some (checked, text) =>
        { kind := .taskListItem, checked, children := Shown.gather (paragraph text :: rest) }
      | none => { kind := .listItem, children := Shown.gather (paragraph text :: rest) })
  | .item mark number content =>
    .item mark number
      { kind := .listItem, children := Shown.gather (allShown definitions content) }

def allShown (definitions : List Definition) : List Block → List Shown
  | [] => []
  | b :: bs => b.shown definitions :: allShown definitions bs

end

end Block

end Wordsmith.Markdown

namespace Wordsmith

open Markdown in
/-- The tree of a Markdown text. Line endings of any kind count as line feeds. -/
def Node.ofMarkdown (t : Text) : Node :=
  let blocks := Block.ofText (Encoding.unifyLineEndings false t)
  { kind := .document
    children := Shown.gather (Block.allShown (Block.allDefinitions blocks) blocks) }

end Wordsmith
