import Wordsmith.Text.Hex
import Wordsmith.Text.Utf8

/-!
# Percent-encoding

A byte that may not stand in an address is written as `%` and its two hexadecimal digits. Each user
has its own set of code points that stand for themselves.
-/

namespace Wordsmith.Text

/-- A byte as `%` and two hexadecimal digits. -/
def percentByte (b : UInt8) : Text := '%' :: hex false 2 b.toNat

/-- Code points that satisfy `keep` stand for themselves; of the others, every byte of their UTF-8
form is percent-encoded. -/
def percentEncode (keep : CodePoint → Bool) (t : Text) : Text :=
  t.flatMap fun c => if keep c then [c] else c.utf8.flatMap percentByte

end Wordsmith.Text
