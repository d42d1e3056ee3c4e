import Wordsmith.Text.Hex
import Wordsmith.Text.Printable

/-!
# Quoted texts

How a message shows a text that somebody gave: between apostrophes, or between quotation marks if
the text holds an apostrophe and no quotation mark. Only printable code points show as themselves.
-/

namespace Wordsmith.Text

/-- The mark that stands at both ends of a quoted text. -/
def quoteMark (t : Text) : CodePoint :=
  if t.any (CodePoint.isIn "'") && !t.any (CodePoint.isIn "\"") then '"' else '\''

/-- One code point inside a quoted text with the given mark. -/
def quoteCodePoint (mark c : CodePoint) : Text :=
  if c = '\\' || c = mark then ['\\', c]
  else if c = '\n' then "\\n"
  else if c = '\r' then "\\r"
  else if c = '\t' then "\\t"
  else if c.isPrintable then [c]
  else if c.val < 0x100 then "\\x" ++ hex true 2 c.val
  else if c.val < 0x10000 then "\\u" ++ hex true 4 c.val
  else "\\U" ++ hex true 8 c.val

/-- The text as a message shows it. -/
def quoted (t : Text) : Text :=
  let mark := t.quoteMark
  mark :: t.flatMap (quoteCodePoint mark) ++ [mark]

end Wordsmith.Text
