import Wordsmith.Length

/-!
# Building blocks of a style

Fonts, spacing, indentation and borders in the units that a word processor stores: lengths in twips,
font sizes in half-points, border widths in eighths of a point. Each structure's defaults are the
plain style, so an empty value of a block is the plain block.
-/

namespace Wordsmith

/-- A font: its face, its size in half-points and its colour as six hexadecimal digits. Neither name
nor colour is checked. -/
structure Font where
  name : Text := "Calibri"
  size : Int := 24
  color : Text := "000000"
deriving DecidableEq

/-- How a line height is to be read. -/
inductive LineRule where
  | auto
  | atLeast
  | exactly
  | multiple
deriving DecidableEq, Repr

/-- The line spacing of a document: twips for `atLeast` and `exactly`, 240ths of a line for
`multiple`. Without a value there is no rule. -/
structure LineSpacing where
  rule : LineRule := .auto
  value : Option Int := none
deriving DecidableEq

/-- The space before and after a paragraph, and its exact line height if it has one. -/
structure Spacing where
  before : Int := 0
  after : Int := 0
  line : Option Int := none
deriving DecidableEq

/-- The distances of a paragraph from the margins. -/
structure Indentation where
  left : Int := 0
  right : Int := 0
  firstLine : Option Int := none
  hanging : Option Int := none
deriving DecidableEq

/-- How a border line is drawn. -/
inductive BorderStyle where
  | single
  | double
  | dashed
  | dotted
deriving DecidableEq, Repr

/-- One side of a border; the width is in eighths of a point. -/
structure BorderSide where
  width : Int := 4
  color : Text := "000000"
  style : BorderStyle := .single
deriving DecidableEq

/-- The sides of a border, each present or not. -/
structure Border where
  top : Option BorderSide := none
  right : Option BorderSide := none
  bottom : Option BorderSide := none
  left : Option BorderSide := none
deriving DecidableEq

/-- Where the lines of a paragraph are set; `both` stretches them to both margins. -/
inductive Alignment where
  | left
  | center
  | right
  | both
deriving DecidableEq, Repr

/-- What becomes of the link of a text run. -/
inductive LinkMode where
  /-- The run is coloured, its target is dropped. -/
  | coloredText
  /-- The target follows the linked runs in brackets. -/
  | inlineUrl
  /-- The runs are wrapped in a link that can be followed. -/
  | hyperlink
deriving DecidableEq, Repr

namespace LineRule

def names : List (String × LineRule) :=
  [("auto", .auto), ("atLeast", .atLeast), ("exactly", .exactly), ("multiple", .multiple)]

def name : LineRule → String
  | .auto => "auto"
  | .atLeast => "atLeast"
  | .exactly => "exactly"
  | .multiple => "multiple"

end LineRule

namespace BorderStyle

def name : BorderStyle → String
  | .single => "single"
  | .double => "double"
  | .dashed => "dashed"
  | .dotted => "dotted"

def names : List (String × BorderStyle) :=
  [("single", .single), ("double", .double), ("dashed", .dashed), ("dotted", .dotted)]

end BorderStyle

namespace Alignment

def name : Alignment → String
  | .left => "left"
  | .center => "center"
  | .right => "right"
  | .both => "both"

def names : List (String × Alignment) :=
  [("left", .left), ("center", .center), ("right", .right), ("both", .both)]

end Alignment

namespace LinkMode

def name : LinkMode → String
  | .coloredText => "colored_text"
  | .inlineUrl => "inline_url"
  | .hyperlink => "hyperlink"

/-- All link modes with their names, in the order in which they are offered. -/
def names : List (String × LinkMode) :=
  [("colored_text", .coloredText), ("inline_url", .inlineUrl), ("hyperlink", .hyperlink)]

end LinkMode

namespace Border

/-- The border with the same side all around. -/
def all (side : BorderSide) : Border := ⟨side, side, side, side⟩

/-- No side is present. -/
def isEmpty (b : Border) : Bool :=
  b.top.isNone && b.right.isNone && b.bottom.isNone && b.left.isNone

/-- The sides in the order in which they are written: top, left, bottom, right. -/
def sides (b : Border) : List (String × BorderSide) :=
  [("top", b.top), ("left", b.left), ("bottom", b.bottom), ("right", b.right)].filterMap
    fun (edge, side) => side.map (edge, ·)

end Border

end Wordsmith
