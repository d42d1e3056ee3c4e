import Wordsmith.Text.Basic

/-!
# Text inside markup

Five characters have a meaning of their own in markup and are written as entities. Control characters
and the two noncharacters at the end of the basic plane may not occur at all, not even as entities,
so they are left out.
-/

namespace Wordsmith

/-- A code point inside markup: an entity for the five characters with a meaning of their own. -/
def CodePoint.escape (c : CodePoint) : Text :=
  if c = '&' then "&amp;"
  else if c = '<' then "&lt;"
  else if c = '>' then "&gt;"
  else if c = '"' then "&quot;"
  else if c = '\'' then "&apos;"
  else [c]

/-- `c` is a control character other than tab, line feed and carriage return, or one of the two
noncharacters at the end of the basic plane. -/
def CodePoint.isForbidden (c : CodePoint) : Bool :=
  c.val < 0x20 && c.val ≠ 0x9 && c.val ≠ 0xA && c.val ≠ 0xD || c.val = 0xFFFE || c.val = 0xFFFF

namespace Text

/-- The text as it is written inside markup. A text is escaped exactly once: escaping it twice
escapes the entities. -/
def escape (t : Text) : Text := t.flatMap CodePoint.escape

/-- The text without the code points that may not occur in markup. -/
def strip (t : Text) : Text := t.filter (!·.isForbidden)

end Text

end Wordsmith
