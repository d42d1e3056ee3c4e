import Wordsmith.Text.Basic

/-!
# Lines and columns

The structure of a document is decided line by line, and indentation is counted in columns: a tab
reaches to the next multiple of four. A `Cursor` is what is left of a line together with the column at
which it starts; taking columns from it may cut a tab in two, of which the rest stays as spaces.
-/

namespace Wordsmith.Markdown

def isIndent (c : CodePoint) : Bool := c.isIn " \t"

def isGap (c : CodePoint) : Bool := c.isIn " \t\n"

/-- The lines of a text. A line feed ends a line, so no empty line follows the last one. -/
def lines : Text → List Text
  | [] => []
  | c :: t =>
    if c = '\n' then [] :: lines t
    else
      match lines t with
      | [] => [[c]]
      | line :: rest => (c :: line) :: rest

/-- What is left of a line, and the column at which it starts. -/
structure Cursor where
  column : Nat
  rest : Text

namespace Cursor

/-- The number of columns from a column to the next tab stop. -/
def toTabStop (column : Nat) : Nat := 4 - column % 4

/-- The number of columns that leading spaces and tabs take, from a column on. -/
def indentFrom (column : Nat) : Text → Nat
  | [] => 0
  | c :: t =>
    if c = ' ' then 1 + indentFrom (column + 1) t
    else if c = '\t' then toTabStop column + indentFrom (column + toTabStop column) t
    else 0

/-- The indentation in columns. -/
def indent (c : Cursor) : Nat := indentFrom c.column c.rest

def isBlank (c : Cursor) : Bool := c.rest.all isIndent

/-- Takes up to `n` columns of indentation from a text that starts at a column. -/
def skipFrom (n column : Nat) : Text → Cursor
  | [] => ⟨column, []⟩
  | c :: t =>
    if n = 0 then ⟨column, c :: t⟩
    else if c = ' ' then skipFrom (n - 1) (column + 1) t
    else if c = '\t' then
      let width := toTabStop column
      if width ≤ n then skipFrom (n - width) (column + width) t
      else ⟨column + n, List.replicate (width - n) (' ' : CodePoint) ++ t⟩
    else ⟨column, c :: t⟩

/-- Takes up to `n` columns of indentation. -/
def skip (n : Nat) (c : Cursor) : Cursor := skipFrom n c.column c.rest

def skipIndent (c : Cursor) : Cursor := ⟨c.column + c.indent, c.rest.dropWhile isIndent⟩

/-- Takes `n` code points, none of which is a tab. -/
def drop (n : Nat) (c : Cursor) : Cursor := ⟨c.column + n, c.rest.drop n⟩

end Cursor

end Wordsmith.Markdown
