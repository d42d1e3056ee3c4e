import Wordsmith.Text.Ranges

/-!
# Blank code points

Two classes: the blanks that a reader skips over (white space of any kind, the four information
separators included), and the spaces that divide words (the space separators with tab, line feed,
form feed and carriage return).
-/

namespace Wordsmith

/-- The code points of white space, the information separators included. -/
def CodePoint.blankRanges : List (Nat × Nat) :=
  [(0x9, 0xD), (0x1C, 0x20), (0x85, 0x85), (0xA0, 0xA0), (0x1680, 0x1680), (0x2000, 0x200A),
   (0x2028, 0x2029), (0x202F, 0x202F), (0x205F, 0x205F), (0x3000, 0x3000)]

/-- `c` is white space of some kind. -/
def CodePoint.isBlank (c : CodePoint) : Bool := inRanges blankRanges c.val

/-- The code points of the space separators, and of tab, line feed, form feed and carriage return. -/
def CodePoint.spaceRanges : List (Nat × Nat) :=
  [(0x9, 0xA), (0xC, 0xD), (0x20, 0x20), (0xA0, 0xA0), (0x1680, 0x1680), (0x2000, 0x200A),
   (0x202F, 0x202F), (0x205F, 0x205F), (0x3000, 0x3000)]

/-- `c` divides words. -/
def CodePoint.isSpace (c : CodePoint) : Bool := inRanges spaceRanges c.val

def Text.isBlank (t : Text) : Bool := t.all CodePoint.isBlank

end Wordsmith
