import Wordsmith.Markdown.Line
import Wordsmith.Style.Basic

/-!
# Rows of pipe tables

A row is divided by pipes; a pipe at either end belongs to no cell, and one after a backslash divides
nothing. A second row of hyphens and colons makes a table of the row above it and aligns the columns.
-/

namespace Wordsmith.Markdown

/-- The parts of a row between pipes. -/
def splitPipes : Text → List Text
  | [] => [[]]
  | c :: t =>
    if c = '|' then [] :: splitPipes t
    else
      match c, t with
      | c, d :: rest =>
        -- a pipe after a backslash is part of its cell, the backslash is not
        if c = '\\' && d = '|' then
          match splitPipes rest with
          | [] => [[d]]
          | cell :: cells => (d :: cell) :: cells
        else
          match splitPipes (d :: rest) with
          | [] => [[c]]
          | cell :: cells => (c :: cell) :: cells
      | c, [] => [[c]]
termination_by t => t.length

/-- The cells of a row, without the blanks at their ends. -/
def rowCells (t : Text) : List Text :=
  let t := Text.trim isIndent t
  let cells := splitPipes (if t.head? = some '|' then t.drop 1 else t)
  let cells := if (cells.getLast?.any fun cell => cell.all isIndent) then cells.dropLast else cells
  cells.map (Text.trim isIndent)

/-- The alignment that a cell of hyphens asks for; absent if the cell holds anything else. -/
def cellAlignment? (cell : Text) : Option (Option Alignment) :=
  let left : Bool := cell.head? = some ':'
  let body := if left then cell.drop 1 else cell
  let right : Bool := body.getLast? = some ':'
  let body := if right then body.dropLast else body
  if !body.isEmpty && body.all (· = '-') then
    some (match left, right with
      | true, true => some .center
      | true, false => some .left
      | false, true => some .right
      | false, false => none)
  else none

/-- The alignments of a row of hyphens. -/
def rowAlignments? (t : Text) : Option (List (Option Alignment)) :=
  -- mere hyphens are a rule or an underline
  if t.any (·.isIn "|:") then
    match rowCells t with
    | [] => none
    | cells => cells.mapM cellAlignment?
  else none

/-- The cells that a row has in a table with `count` columns: surplus ones are dropped, missing ones
are empty. -/
def fitCells (count : Nat) (cells : List Text) : List Text :=
  cells.take count ++ List.replicate (count - cells.length) []

end Wordsmith.Markdown
