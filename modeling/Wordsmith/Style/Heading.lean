import Wordsmith.Style.Basic

/-!
# Heading styles

A document has six heading styles, one per slot. A style carries a level of its own, which decides
its font where none is given; once the style stands in a slot, the slot decides the level
(`HeadingStyles.levelled`).
-/

namespace Wordsmith

/-- The font of a heading of this level where none is given: it shrinks by two points a level, from
sixteen points down to eight. -/
def Font.heading (level : Int) : Font := { size := max (32 - (level - 1) * 4) 16 }

/-- The style of the headings of one level. -/
structure HeadingStyle where
  level : Int := 1
  font : Font := Font.heading level
  spacing : Spacing := {}
  keepWithNext : Bool := true
  keepLines : Bool := true
deriving DecidableEq

/-- What is to change in a heading style; a field without a value stays. -/
structure HeadingChange where
  level : Option Int := none
  /-- `some none` asks for the font that belongs to the level. -/
  font : Option (Option Font) := none
  spacing : Option Spacing := none
  keepWithNext : Option Bool := none
  keepLines : Option Bool := none

/-- The style after a change. The level changes first, so that a font that is asked for by level is
the font of the new level. -/
def HeadingStyle.change (s : HeadingStyle) (c : HeadingChange) : HeadingStyle :=
  let level := c.level.getD s.level
  { level
    font := (c.font.map fun font => font.getD (.heading level)).getD s.font
    spacing := c.spacing.getD s.spacing
    keepWithNext := c.keepWithNext.getD s.keepWithNext
    keepLines := c.keepLines.getD s.keepLines }

/-- One of the six places for a heading style. -/
inductive HeadingSlot where
  | h1
  | h2
  | h3
  | h4
  | h5
  | h6
deriving DecidableEq, Repr

namespace HeadingSlot

/-- All slots with their names, from the first to the last. -/
def names : List (String × HeadingSlot) :=
  [("h1", .h1), ("h2", .h2), ("h3", .h3), ("h4", .h4), ("h5", .h5), ("h6", .h6)]

/-- The level that a slot gives to the style in it. -/
def level : HeadingSlot → Nat
  | .h1 => 1
  | .h2 => 2
  | .h3 => 3
  | .h4 => 4
  | .h5 => 5
  | .h6 => 6

/-- The slot of a level from one to six; any other level has the first slot. -/
def ofLevel (level : Int) : HeadingSlot :=
  match level with
  | 2 => .h2
  | 3 => .h3
  | 4 => .h4
  | 5 => .h5
  | 6 => .h6
  | _ => .h1

end HeadingSlot

/-- The six heading styles, one in each slot. -/
structure HeadingStyles where
  h1 : HeadingStyle := { level := 1 }
  h2 : HeadingStyle := { level := 2 }
  h3 : HeadingStyle := { level := 3 }
  h4 : HeadingStyle := { level := 4 }
  h5 : HeadingStyle := { level := 5 }
  h6 : HeadingStyle := { level := 6 }
deriving DecidableEq

namespace HeadingStyles

/-- The style in a slot. -/
def get (s : HeadingStyles) : HeadingSlot → HeadingStyle
  | .h1 => s.h1
  | .h2 => s.h2
  | .h3 => s.h3
  | .h4 => s.h4
  | .h5 => s.h5
  | .h6 => s.h6

/-- The same styles with the levels of their slots; fonts stay. -/
def levelled (s : HeadingStyles) : HeadingStyles where
  h1 := { s.h1 with level := 1 }
  h2 := { s.h2 with level := 2 }
  h3 := { s.h3 with level := 3 }
  h4 := { s.h4 with level := 4 }
  h5 := { s.h5 with level := 5 }
  h6 := { s.h6 with level := 6 }

/-- Puts a style into a slot, which gives it its level. -/
def put (s : HeadingStyles) (slot : HeadingSlot) (style : HeadingStyle) : HeadingStyles :=
  match slot with
  | .h1 => { s with h1 := style }.levelled
  | .h2 => { s with h2 := style }.levelled
  | .h3 => { s with h3 := style }.levelled
  | .h4 => { s with h4 := style }.levelled
  | .h5 => { s with h5 := style }.levelled
  | .h6 => { s with h6 := style }.levelled

/-- The styles in the order of their slots. -/
def toList (s : HeadingStyles) : List HeadingStyle := [s.h1, s.h2, s.h3, s.h4, s.h5, s.h6]

/-- The style for headings of a level; levels outside one to six use the first slot. -/
def styleFor (s : HeadingStyles) (level : Int) : HeadingStyle := s.get (.ofLevel level)

end HeadingStyles

end Wordsmith
