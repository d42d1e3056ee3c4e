import Wordsmith.Number.Binary64
import Wordsmith.Text.Basic

/-!
# The shortest text of a floating point number

A number shows with the fewest decimal digits that read back as it; of two such decimals, the nearer
one. Integers show a fraction of zero. Below `10 ^ -4` and from `10 ^ 16` on, the digits are followed
by an exponent of at least two digits.
-/

namespace Wordsmith

/-- The number `digits * 10 ^ exponent`. -/
structure Decimal where
  digits : Nat
  exponent : Int

/-- The number of decimal digits of `n`; zero has none. -/
def digitCount (n : Nat) : Nat := if n = 0 then 0 else (Nat.toDigits 10 n).length

namespace Decimal

/-- Zeros at the end of the digits are moved into the exponent. -/
def strip : (fuel : Nat) → Decimal → Decimal
  | 0, d => d
  | fuel + 1, d =>
    if d.digits % 10 = 0 then strip fuel ⟨d.digits / 10, d.exponent + 1⟩ else d

def zeros (count : Nat) : Text := List.replicate count '0'

def layout (d : Decimal) : Text :=
  let digits := Text.ofNat d.digits
  let count := digits.length
  let lead : Int := d.exponent + count - 1
  if -4 ≤ lead && lead < 16 then
    if 0 ≤ d.exponent then digits ++ zeros d.exponent.toNat ++ ".0"
    else if 0 ≤ lead then
      digits.take (lead.toNat + 1) ++ "." ++ digits.drop (lead.toNat + 1)
    else "0." ++ zeros (-lead - 1).toNat ++ digits
  else
    let fraction : Text := if count = 1 then [] else '.' :: digits.drop 1
    let exponent := Text.ofNat lead.natAbs
    let padded : Text := if exponent.length < 2 then '0' :: exponent else exponent
    let sign : Text := if lead < 0 then "e-" else "e+"
    digits.take 1 ++ fraction ++ sign ++ padded

end Decimal

namespace Binary64

/-- Two floating point numbers stand for the same value. -/
def hasValueOf : Binary64 → Binary64 → Bool
  | .finite s m e, .finite t n f =>
    s = t && m * power 2 (e - f) = n * power 2 (f - e)
  | .infinite s, .infinite t => s = t
  | _, _ => false

/-- The decimal nearest to `num / den` among those with `places` digits that read back as it, where
the first digit stands for `10 ^ lead`. -/
def decimalWith? (num den : Nat) (lead : Int) (places : Nat) : Option Decimal :=
  let exponent := lead + 1 - places
  let top := num * power 10 (-exponent)
  let bottom := den * power 10 exponent
  let below := top / bottom
  let readsBack (digits : Nat) : Bool :=
    (ofDecimal false digits exponent).hasValueOf (ofRatio false num den)
  let aboveIsNearer := bottom < 2 * (top % bottom)
  let (first, second) := if aboveIsNearer then (below + 1, below) else (below, below + 1)
  if readsBack first then some ⟨first, exponent⟩
  else if readsBack second then some ⟨second, exponent⟩
  else none

/-- The shortest decimal that reads back as the positive number `num / den`. Seventeen digits always
suffice. -/
def shortestDecimal (num den : Nat) : Decimal :=
  let lead : Int :=
    if den ≤ num then (digitCount (num / den) : Int) - 1 else -(digitCount ((den - 1) / num) : Int)
  ((List.range 17).findSome? fun k => decimalWith? num den lead (k + 1)).getD ⟨0, 0⟩

def shortest : Binary64 → Text
  | .finite s m e =>
    let magnitude : Text :=
      if m = 0 then "0.0"
      else
        (Decimal.strip 17 (shortestDecimal (m * power 2 e) (power 2 (-e)))).layout
    if s then '-' :: magnitude else magnitude
  | .infinite s => if s then "-inf" else "inf"
  | .nan => "nan"

end Binary64

end Wordsmith
