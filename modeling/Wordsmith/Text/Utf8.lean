import Wordsmith.Text.Basic

/-!
# UTF-8

`Text.utf8?` writes a text as bytes and refuses one with a surrogate; `Utf8.decode` reads bytes and
tells where and why it stops. A sequence of two to four bytes is read byte by byte: the first byte
fixes how many follow and, for some first bytes, a narrower range for the second one.
-/

namespace Wordsmith

/-- The bytes of a code point in UTF-8, surrogates treated as any other. -/
def CodePoint.utf8 (c : CodePoint) : List UInt8 :=
  let n := c.val
  if n < 0x80 then [n.toUInt8]
  else if n < 0x800 then [(0xC0 + n / 64).toUInt8, (0x80 + n % 64).toUInt8]
  else if n < 0x10000 then
    [(0xE0 + n / 4096).toUInt8, (0x80 + n / 64 % 64).toUInt8, (0x80 + n % 64).toUInt8]
  else
    [(0xF0 + n / 262144).toUInt8, (0x80 + n / 4096 % 64).toUInt8, (0x80 + n / 64 % 64).toUInt8,
      (0x80 + n % 64).toUInt8]

/-- The bytes of a text in UTF-8; absent if it holds a surrogate. -/
def Text.utf8? (t : Text) : Option (List UInt8) :=
  if t.any CodePoint.isSurrogate then none else some (t.flatMap CodePoint.utf8)

namespace Utf8

/-- Why bytes are no UTF-8. -/
inductive Fault where
  /-- A byte that starts no sequence. -/
  | start
  /-- A byte that does not continue the sequence it stands in. -/
  | continuation
  /-- The input ends inside a sequence. -/
  | ending
deriving DecidableEq, Repr

/-- The first offending byte sequence: `length` bytes from `position` on. -/
structure Flaw where
  fault : Fault
  position : Nat
  length : Nat
deriving DecidableEq, Repr

/-- What a first byte announces: the number of bytes to follow, the bits it contributes, and the
range of the byte after it. -/
structure Lead where
  following : Nat
  bits : Nat
  lo : Nat
  hi : Nat

/-- The announcement of a first byte, absent for a byte that cannot be first. -/
def lead? (b : Nat) : Option Lead :=
  if b < 0x80 then some ⟨0, b, 0x80, 0xBF⟩
  -- bytes that continue a sequence, and those that would start an overlong one
  else if b < 0xC2 then none
  else if b < 0xE0 then some ⟨1, b - 0xC0, 0x80, 0xBF⟩
  -- the narrower ranges keep out overlong sequences, surrogates and what lies beyond Unicode
  else if b < 0xF0 then
    some ⟨2, b - 0xE0, if b = 0xE0 then 0xA0 else 0x80, if b = 0xED then 0x9F else 0xBF⟩
  else if b < 0xF5 then
    some ⟨3, b - 0xF0, if b = 0xF0 then 0x90 else 0x80, if b = 0xF4 then 0x8F else 0xBF⟩
  else none

/-- Where the reader stands: between sequences, or inside one. -/
inductive State where
  | between
  /-- `missing` bytes are still to come after `seen` of them, and `bits` were read so far. -/
  | inside (missing seen bits lo hi : Nat)

/-- Reads the bytes from `position` on; `done` holds the code points before it, last one first. -/
def decodeFrom (position : Nat) (done : Text) : State → List UInt8 → Except Flaw Text
  | .between, [] => .ok done.reverse
  | .inside _ seen .., [] => .error ⟨.ending, position - seen, seen⟩
  | .between, b :: bs =>
    match lead? b.toNat with
    | none => .error ⟨.start, position, 1⟩
    | some lead =>
      if lead.following = 0 then decodeFrom (position + 1) (.ofNat lead.bits :: done) .between bs
      else
        decodeFrom (position + 1) done (.inside lead.following 1 lead.bits lead.lo lead.hi) bs
  | .inside missing seen bits lo hi, b :: bs =>
    let n := b.toNat
    if n < lo || hi < n then .error ⟨.continuation, position - seen, seen⟩
    else
      let bits := bits * 64 + n % 64
      if missing ≤ 1 then decodeFrom (position + 1) (.ofNat bits :: done) .between bs
      else decodeFrom (position + 1) done (.inside (missing - 1) (seen + 1) bits 0x80 0xBF) bs

/-- The text that the bytes write, or the first flaw. -/
def decode (bytes : List UInt8) : Except Flaw Text := decodeFrom 0 [] .between bytes

end Utf8

end Wordsmith
