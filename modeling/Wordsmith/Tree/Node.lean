import Wordsmith.Style.Name

/-!
# The tree of a Markdown document

Every node has the same fields; which of them mean something depends on its kind. A tree may nest
kinds in any way, also in ways that no Markdown text gives rise to.
-/

namespace Wordsmith

/-- The kinds of nodes, blocks and what stands inside of blocks alike. -/
inductive NodeKind where
  | document
  | heading
  | paragraph
  | text
  | bold
  | italic
  | strikethrough
  | inlineCode
  | codeBlock
  | orderedList
  | unorderedList
  | listItem
  | taskListItem
  | table
  | tableRow
  | tableCell
  | quote
  | horizontalRule
  | link
  | image
  | html
  | lineBreak
  | softBreak
deriving DecidableEq, Repr

namespace NodeKind

def names : List (String × NodeKind) :=
  [("document", .document), ("heading", .heading), ("paragraph", .paragraph), ("text", .text),
   ("bold", .bold), ("italic", .italic), ("strikethrough", .strikethrough),
   ("inline_code", .inlineCode), ("code_block", .codeBlock), ("ordered_list", .orderedList),
   ("unordered_list", .unorderedList), ("list_item", .listItem),
   ("task_list_item", .taskListItem), ("table", .table), ("table_row", .tableRow),
   ("table_cell", .tableCell), ("blockquote", .quote), ("horizontal_rule", .horizontalRule),
   ("link", .link), ("image", .image), ("html", .html), ("line_break", .lineBreak),
   ("soft_break", .softBreak)]

def name : NodeKind → String
  | .document => "document"
  | .heading => "heading"
  | .paragraph => "paragraph"
  | .text => "text"
  | .bold => "bold"
  | .italic => "italic"
  | .strikethrough => "strikethrough"
  | .inlineCode => "inline_code"
  | .codeBlock => "code_block"
  | .orderedList => "ordered_list"
  | .unorderedList => "unordered_list"
  | .listItem => "list_item"
  | .taskListItem => "task_list_item"
  | .table => "table"
  | .tableRow => "table_row"
  | .tableCell => "table_cell"
  | .quote => "blockquote"
  | .horizontalRule => "horizontal_rule"
  | .link => "link"
  | .image => "image"
  | .html => "html"
  | .lineBreak => "line_break"
  | .softBreak => "soft_break"

/-- The kind with this name. -/
def ofName : Text → Except NameError NodeKind := lookup names (.value "NodeType")

/-- A list, with numbers or without. -/
def isList : NodeKind → Bool
  | .orderedList | .unorderedList => true
  | _ => false

/-- An entry of a list, with a check box or without. -/
def isItem : NodeKind → Bool
  | .listItem | .taskListItem => true
  | _ => false

/-- A kind of which a block can become an element of the document. -/
def isBlock : NodeKind → Bool
  | .heading | .paragraph | .text | .unorderedList | .orderedList | .codeBlock | .quote | .table
  | .horizontalRule | .image => true
  | _ => false

/-- A line break, hard or soft. -/
def isBreak : NodeKind → Bool
  | .lineBreak | .softBreak => true
  | _ => false

end NodeKind

/-- A node of the tree. All kinds have the same fields, and those that a kind has no use for keep their
defaults. -/
structure Node where
  kind : NodeKind
  children : List Node := []
  text : Text := []
  /-- The level of a heading. -/
  level : Int := 0
  /-- The info string of a code block. -/
  language : Text := []
  /-- The target of a link or an image. -/
  url : Text := []
  title : Text := []
  /-- What an image shows, in words. -/
  alt : Text := []
  /-- The alignment of a table cell. -/
  align : Text := []
  /-- The cell belongs to the head of the table. -/
  header : Bool := false
  /-- The box of the list item is ticked. -/
  checked : Bool := false
  /-- The first number of an ordered list. -/
  start : Int := 1

namespace Node

/-- A node that shows a text. -/
def ofText (text : Text) : Node := { kind := .text, text }

end Node

end Wordsmith
