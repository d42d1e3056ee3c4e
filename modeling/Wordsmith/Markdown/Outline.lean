import Wordsmith.Markdown.Block
import Wordsmith.Markdown.Html

/-!
# Reading the structure of a document

Lines are taken one by one. An `Outline` holds what is still open: quotations and list items, one
inside the other, and in the innermost of them at most one leaf, to which further lines may belong. A
line first goes on with as many open containers as it can, then opens new ones, and what is left of it
goes to a leaf. A line of running text also continues a paragraph whose containers it does not go on
with.
-/

namespace Wordsmith.Markdown

/-- A block that holds blocks and is still open. -/
inductive Container where
  | quote
  /-- A list item whose content starts `offset` columns after the start of its own line. -/
  | item (mark : ListMark) (number offset : Nat)

/-- An open container with the finished blocks in it, last one first. -/
structure Level where
  container : Container
  done : List Block

/-- The fence in front of a code block. -/
structure Fence where
  mark : CodePoint
  length : Nat
  indent : Nat
  info : Text

/-- A block to which further lines may belong; the lines so far are held last one first. -/
inductive Leaf where
  | paragraph (lines : List Text)
  | indented (lines : List Text)
  | fenced (fence : Fence) (lines : List Text)
  | html (ending : HtmlEnd) (lines : List Text)
  | table (alignments : List (Option Alignment)) (header : List Text) (rows : List (List Text))

/-- What is open, the innermost container first, and the finished blocks outside all containers, last
one first. -/
structure Outline where
  levels : List Level
  done : List Block
  leaf : Option Leaf

/-- The block of a container with this content. -/
def Container.block (content : List Block) : Container → Block
  | .quote => .quote content
  | .item mark number _ => .item mark number content

namespace Leaf

/-- The text of lines that are held last one first; every line ends in a line feed. -/
def closedLines (lines : List Text) : Text := lines.reverse.flatMap (· ++ [('\n' : CodePoint)])

/-- The text of lines that are held last one first, with line feeds between them. -/
def joinedLines (lines : List Text) : Text := Text.join ['\n'] lines.reverse

/-- The blocks that a leaf makes. -/
def blocks : Leaf → List Block
  | .paragraph lines => Block.ofParagraph (joinedLines lines)
  -- blank lines at the end do not belong to the code
  | .indented lines => [.code [] (joinedLines (lines.dropWhile (·.all isIndent)))]
  | .fenced fence lines => [.code fence.info (closedLines lines)]
  | .html _ lines => [.html (closedLines lines)]
  | .table alignments header rows => [.table alignments header rows.reverse]

end Leaf

namespace Outline

/-- Nothing is open and nothing done. -/
def empty : Outline := ⟨[], [], none⟩

/-- Adds finished blocks to the innermost container. -/
def add (o : Outline) (blocks : List Block) : Outline :=
  match o.levels with
  | [] => { o with done := blocks.reverse ++ o.done }
  | l :: ls => { o with levels := { l with done := blocks.reverse ++ l.done } :: ls }

def closeLeaf (o : Outline) : Outline :=
  match o.leaf with
  | none => o
  | some leaf => { o.add leaf.blocks with leaf := none }

/-- Finishes the innermost container, in which no leaf is open. -/
def closeLevel (o : Outline) : Outline :=
  match o.levels with
  | [] => o
  | l :: ls => { o with levels := ls }.add [l.container.block l.done.reverse]

/-- Finishes the leaf and the `count` innermost containers. -/
def close (o : Outline) : (count : Nat) → Outline
  | 0 => o.closeLeaf
  | count + 1 => (o.closeLeaf.closeLevel).close count

def push (o : Outline) (container : Container) : Outline :=
  { o with levels := ⟨container, []⟩ :: o.levels }

def openLeaf (o : Outline) (leaf : Leaf) : Outline := { o with leaf := some leaf }

def blocks (o : Outline) : List Block := (o.close o.levels.length).done.reverse

end Outline

/-! ### Going on with containers -/

/-- What is left of a line that goes on with a container; absent if it does not. `bare` says that
nothing has been put into the container yet. -/
def Container.continue? (bare : Bool) (cursor : Cursor) : Container → Option Cursor
  | .quote =>
    if cursor.indent < 4 && cursor.skipIndent.rest.head? = some '>' then
      some ((cursor.skipIndent.drop 1).skip 1)
    else none
  | .item _ _ offset =>
    -- an item that starts with a blank line ends at a second one
    if cursor.isBlank then if bare then none else some cursor.skipIndent
    else if offset ≤ cursor.indent then some (cursor.skip offset)
    else none

/-- What is left of a line after the containers that it goes on with, and the number of those that it
does not; the containers are given outermost first, each with whether it is bare. -/
def continueLevels (cursor : Cursor) : List (Bool × Container) → Cursor × Nat
  | [] => (cursor, 0)
  | (bare, container) :: rest =>
    match container.continue? bare cursor with
    | some cursor => continueLevels cursor rest
    | none => (cursor, rest.length + 1)

/-- The open containers, outermost first; only the innermost may be bare. -/
def Outline.containers (o : Outline) : List (Bool × Container) :=
  match o.levels with
  | [] => []
  | l :: ls =>
    ((l.done.isEmpty && o.leaf.isNone, l.container) :: ls.map fun l => (false, l.container)).reverse

/-! ### Starts of blocks

Each of these reads the start of a block from a line without its indentation. -/

/-- The level and the text of a heading behind number signs. -/
def numberSignHeading? (t : Text) : Option (Nat × Text) :=
  let (signs, rest) := t.span (· = ('#' : CodePoint))
  if signs.isEmpty || 6 < signs.length then none
  else if rest.head?.all isIndent then
    let body := Text.trim isIndent rest
    -- a closing row of number signs counts only behind a blank
    let unclosed := (body.reverse.dropWhile (· = ('#' : CodePoint))).reverse
    let body := if unclosed.getLast?.all isIndent then Text.trim isIndent unclosed else body
    some (signs.length, body)
  else none

def fence? (indent : Nat) (t : Text) : Option Fence :=
  match t with
  | [] => none
  | mark :: _ =>
    let (marks, rest) := t.span (· = mark)
    -- backticks behind a fence of backticks would make it a code span
    if mark.isIn "`~" && 3 ≤ marks.length && !(mark = '`' && rest.any (· = '`')) then
      some ⟨mark, marks.length, indent, unescape (Text.trim isIndent rest)⟩
    else none

/-- The line closes a code block with this fence. -/
def Fence.closes (fence : Fence) (cursor : Cursor) : Bool :=
  let (marks, rest) := cursor.skipIndent.rest.span (· = fence.mark)
  cursor.indent < 4 && fence.length ≤ marks.length && rest.all isIndent

/-- The level of the heading that a line under a paragraph makes of it. -/
def underlineLevel? (t : Text) : Option Nat :=
  match t with
  | [] => none
  | mark :: _ =>
    if mark.isIn "=-" && (t.dropWhile (· = mark)).all isIndent then
      some (if mark = '=' then 1 else 2)
    else none

/-- The line divides the document: three or more equal marks and nothing else. -/
def isRule (t : Text) : Bool :=
  match t with
  | [] => false
  | mark :: _ =>
    let marks := t.filter fun c => !isIndent c
    mark.isIn "*-_" && 3 ≤ marks.length && marks.all (· = mark)

/-- The mark, the number and the length of the marker of a list item. -/
def itemMarker? (t : Text) : Option (ListMark × Nat × Nat) :=
  let (digits, rest) := t.span CodePoint.isDigit
  match rest with
  | [] => none
  | c :: rest =>
    if rest.head?.all isIndent then
      if digits.isEmpty then if c.isIn "-+*" then some (.bullet c, 1, 1) else none
      else if c.isIn ".)" && digits.length ≤ 9 then
        some (.ordered c, digits.foldl (fun n d => n * 10 + (d.val - 48)) 0, digits.length + 1)
      else none
    else none

/-- The list item that a line starts, and what is left of the line. `continuing` says that the line
could continue a paragraph. -/
def item? (continuing : Bool) (cursor : Cursor) : Option (Container × Cursor) := do
  let start := cursor.skipIndent
  let (mark, number, length) ← itemMarker? start.rest
  let after := start.drop length
  -- only an item that is not empty, and whose number is one, breaks a paragraph
  if continuing && (after.isBlank || number ≠ 1) then none
  else
    -- of more than four columns of blanks after the marker, all but one belong to the content
    let gap := if after.isBlank || 4 < after.indent then 1 else after.indent
    some (.item mark number (cursor.indent + length + gap), after.skip gap)

/-! ### Lines -/

/-- What the leaf that is open is to a line. -/
inductive Pending where
  /-- The line does not belong to it. -/
  | nothing
  /-- A paragraph that the line may continue; it was read so far from these lines, last one first.
  `lazy` says that the line does not go on with all containers around it. -/
  | paragraph (lines : List Text) (isLazy : Bool)
  /-- A table that the line may continue. -/
  | table (alignments : List (Option Alignment)) (header : List Text) (rows : List (List Text))

namespace Pending

/-- The line may continue a paragraph. -/
def isParagraph : Pending → Bool
  | .paragraph .. => true
  | _ => false

/-- The line may continue a paragraph whose containers it all goes on with. -/
def isPlainParagraph : Pending → Bool
  | .paragraph _ isLazy => !isLazy
  | _ => false

end Pending

/-- The table that a row of hyphens makes of the last line before it, and the lines before that. -/
def tableUnder? (lines : List Text) (t : Text) : Option (Leaf × List Text) := do
  let alignments ← rowAlignments? t
  match lines with
  | [] => none
  | header :: rest =>
    let cells := rowCells header
    if cells.length = alignments.length then some (.table alignments cells [], rest) else none

namespace Outline

/-- Adds a line of running text to the paragraph that is open. -/
def continueParagraph (o : Outline) (lines : List Text) (t : Text) : Outline :=
  o.openLeaf (.paragraph (t :: lines))

/-- Opens a block of HTML, which its first line may end. -/
def openHtml (o : Outline) (ending : HtmlEnd) (line : Text) : Outline :=
  let o := o.openLeaf (.html ending [line])
  if ending.isIn line then o.closeLeaf else o

/-- Makes a heading of the paragraph that is open, if `t` asks for it. Definitions that the paragraph
starts with stay what they are. -/
def underline? (o : Outline) (pending : Pending) (t : Text) : Option Outline :=
  match pending, underlineLevel? t with
  | .paragraph lines false, some level =>
    let (ds, text) := definitions (Leaf.joinedLines lines)
    -- a paragraph of nothing but definitions is no heading
    if text.all isGap then none
    else
      let blocks := ds.map .definition ++ [.heading level (Text.trim isGap text)]
      some ({ o with leaf := none }.add blocks)
  | _, _ => none

/-- Makes a table of the last line of the paragraph that is open, if `t` asks for it. -/
def tabulate? (o : Outline) (pending : Pending) (t : Text) : Option Outline :=
  match pending with
  | .paragraph lines false =>
    (tableUnder? lines t).map fun (table, before) =>
      let before := if before.isEmpty then [] else (Leaf.paragraph before).blocks
      ({ o with leaf := none }.add before).openLeaf table
  | _ => none

/-- Gives the rest of a line without a block start of its own to a leaf. -/
def takeText (o : Outline) (missed : Nat) (pending : Pending) (t : Text) : Outline :=
  match pending with
  | .paragraph lines _ => o.continueParagraph lines t
  | .table alignments header rows =>
    o.openLeaf (.table alignments header (fitCells alignments.length (rowCells t) :: rows))
  | .nothing => (o.close missed).openLeaf (.paragraph [t])

/-- Takes what is left of a line after the containers that it goes on with. The `missed` innermost
containers are not among those: they are finished unless the line continues the leaf in them. `fuel`
bounds the number of new containers. -/
def takeRest (o : Outline) (missed : Nat) (pending : Pending) (cursor : Cursor) :
    (fuel : Nat) → Outline
  | 0 => o.close missed
  | fuel + 1 =>
    if cursor.isBlank then o.close missed
    else if 4 ≤ cursor.indent then
      -- indented code does not break a paragraph
      if pending.isParagraph then o.takeText missed pending cursor.skipIndent.rest
      else (o.close missed).openLeaf (.indented [(cursor.skip 4).rest])
    else
      let start := cursor.skipIndent
      let t := start.rest
      let opened (container : Container) (cursor : Cursor) : Outline :=
        takeRest ((o.close missed).push container) 0 .nothing cursor fuel
      if t.head? = some '>' then opened .quote ((start.drop 1).skip 1)
      else if let some (level, text) := numberSignHeading? t then
        (o.close missed).add [.heading level text]
      else if let some fence := fence? cursor.indent t then
        (o.close missed).openLeaf (.fenced fence [])
      else if let some ending := HtmlEnd.ofStart? pending.isParagraph t then
        (o.close missed).openHtml ending cursor.rest
      -- a row of hyphens is a rule only if it underlines nothing
      else if let some o := o.underline? pending t then o
      else if isRule t then (o.close missed).add [.rule]
      else if let some (item, cursor) := item? pending.isPlainParagraph cursor then
        opened item cursor
      else if let some o := o.tabulate? pending t then o
      else o.takeText missed pending t

def takeLine (o : Outline) (line : Text) : Outline :=
  let (cursor, missed) := continueLevels ⟨0, line⟩ o.containers
  let goOn (pending : Pending) : Outline := o.takeRest missed pending cursor (line.length + 1)
  match o.leaf with
  -- a paragraph may go on although containers around it do not
  | some (.paragraph lines) => goOn (.paragraph lines (missed ≠ 0))
  | some leaf =>
    if missed ≠ 0 then goOn .nothing
    else
      match leaf with
      | .fenced fence lines =>
        if fence.closes cursor then o.closeLeaf
        else o.openLeaf (.fenced fence ((cursor.skip fence.indent).rest :: lines))
      | .html .blankLine lines =>
        if cursor.isBlank then o.closeLeaf
        else o.openLeaf (.html .blankLine (cursor.rest :: lines))
      | .html ending lines =>
        let o := o.openLeaf (.html ending (cursor.rest :: lines))
        if ending.isIn cursor.rest then o.closeLeaf else o
      | .indented lines =>
        if cursor.isBlank || 4 ≤ cursor.indent then
          o.openLeaf (.indented ((cursor.skip 4).rest :: lines))
        else goOn .nothing
      | .table alignments header rows => goOn (.table alignments header rows)
      | .paragraph lines => goOn (.paragraph lines false)
  | none => goOn .nothing

end Outline

/-- The blocks of a document. -/
def Block.ofText (t : Text) : List Block := ((lines t).foldl Outline.takeLine .empty).blocks

end Wordsmith.Markdown
