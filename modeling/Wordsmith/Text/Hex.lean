import Wordsmith.Text.Basic

/-!
# Numbers in base sixteen
-/

namespace Wordsmith.Text

/-- The digit of value `n` in base sixteen, for `n < 16`; `small` chooses `a` to `f`. -/
def hexDigit (small : Bool) (n : Nat) : CodePoint :=
  if n < 10 then .ofNat (48 + n) else .ofNat ((if small then 87 else 55) + n)

/-- The last `width` digits of `n` in base sixteen. -/
def hex (small : Bool) : (width n : Nat) → Text
  | 0, _ => []
  | width + 1, n => hex small width (n / 16) ++ [hexDigit small (n % 16)]

end Wordsmith.Text
