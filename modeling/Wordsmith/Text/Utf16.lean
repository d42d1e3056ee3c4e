import Wordsmith.Text.Basic

/-!
# UTF-16

Two bytes make a unit, in either order. A unit outside the surrogate range is a code point; a high
surrogate and the low one after it make one together.
-/

namespace Wordsmith.Utf16

/-- Why bytes are no UTF-16. -/
inductive Fault where
  /-- Half a unit is left over. -/
  | halfUnit
  /-- The input ends after a high surrogate. -/
  | ending
  /-- A low surrogate that no high one stands before. -/
  | loneLow
  /-- A high surrogate that no low one follows. -/
  | loneHigh
deriving DecidableEq, Repr

/-- The first offending byte sequence: `length` bytes from `position` on. -/
structure Flaw where
  fault : Fault
  position : Nat
  length : Nat
deriving DecidableEq, Repr

/-- The unit that two bytes make; `big` says that the first one is the higher. -/
def unit (big : Bool) (first second : UInt8) : Nat :=
  if big then first.toNat * 256 + second.toNat else second.toNat * 256 + first.toNat

def isHigh (u : Nat) : Bool := 0xD800 ≤ u && u < 0xDC00

def isLow (u : Nat) : Bool := 0xDC00 ≤ u && u < 0xE000

/-- Reads the bytes from `position` on; `done` holds the code points before it, last one first. -/
def decodeFrom (big : Bool) (position : Nat) (done : Text) : List UInt8 → Except Flaw Text
  | [] => .ok done.reverse
  | [_] => .error ⟨.halfUnit, position, 1⟩
  | a :: b :: rest =>
    let u := unit big a b
    if isLow u then .error ⟨.loneLow, position, 2⟩
    else if isHigh u then
      match rest with
      | c :: d :: rest =>
        let v := unit big c d
        if isLow v then
          decodeFrom big (position + 4)
            (.ofNat (0x10000 + (u - 0xD800) * 0x400 + (v - 0xDC00)) :: done) rest
        else .error ⟨.loneHigh, position, 2⟩
      | rest => .error ⟨.ending, position, 2 + rest.length⟩
    else decodeFrom big (position + 2) (.ofNat u :: done) rest

end Wordsmith.Utf16
