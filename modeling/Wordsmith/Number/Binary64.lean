/-!
# Binary floating point with 53 bits of precision

A finite number is a sign, a natural mantissa and a power of two. Every operation computes its exact
result as a quotient of naturals and rounds it once, to the nearest number of the format, an exact
half going to the neighbour with the even mantissa (`Binary64.ofRatio`).
-/

namespace Wordsmith

/-- A floating point number: `finite negative m e` stands for `m * 2 ^ e` with that sign. -/
inductive Binary64 where
  | finite (negative : Bool) (mantissa : Nat) (exponent : Int)
  | infinite (negative : Bool)
  | nan
deriving DecidableEq, Repr

namespace Binary64

/-- The integer nearest to `num / den`; of two equally near ones, the even one. -/
def nearest (num den : Nat) : Nat :=
  let quotient := num / den
  let rest := num % den
  if 2 * rest < den then quotient
  else if den < 2 * rest then quotient + 1
  else if quotient % 2 = 0 then quotient else quotient + 1

/-- The power of `base` to `e`, or one if `e` is negative. -/
def power (base : Nat) (e : Int) : Nat := Nat.pow base e.toNat

/-- The integer nearest to `num / den * 2 ^ (-e)`. -/
def nearestAt (e : Int) (num den : Nat) : Nat :=
  nearest (num * power 2 (-e)) (den * power 2 e)

/-- The least exponent of a finite number. -/
def minExponent : Int := -1074

/-- The greatest exponent of a finite number whose mantissa has 53 bits. -/
def maxExponent : Int := 971

/-- The exponent at which the mantissa of `num / den` has 53 bits, or `minExponent` if it is less. -/
def exponentOf (num den : Nat) : Int :=
  let guess : Int := (num.log2 : Int) - (den.log2 : Int)
  let floorLog :=
    if num * power 2 (-guess) < den * power 2 guess then guess - 1 else guess
  max (floorLog - 52) minExponent

/-- The number nearest to `num / den` with the given sign. What would need a greater exponent than
`maxExponent` is infinite. -/
def ofRatio (negative : Bool) (num den : Nat) : Binary64 :=
  let e := exponentOf num den
  let m := nearestAt e num den
  if maxExponent < e || e = maxExponent && m = power 2 53 then .infinite negative
  else .finite negative m e

/-- The number nearest to an integer. -/
def ofInt (n : Int) : Binary64 := ofRatio (n < 0) n.natAbs 1

/-- The number nearest to `digits * 10 ^ exponent` with the given sign. -/
def ofDecimal (negative : Bool) (digits : Nat) (exponent : Int) : Binary64 :=
  ofRatio negative (digits * power 10 exponent) (power 10 (-exponent))

/-- The exact product, rounded. Zero times infinity is no number. -/
def mul : Binary64 → Binary64 → Binary64
  | .finite s m e, .finite t n f =>
    ofRatio (s != t) (m * n * power 2 (e + f)) (power 2 (-(e + f)))
  | .finite s m _, .infinite t => if m = 0 then .nan else .infinite (s != t)
  | .infinite s, .finite t m _ => if m = 0 then .nan else .infinite (s != t)
  | .infinite s, .infinite t => .infinite (s != t)
  | .nan, _ => .nan
  | _, .nan => .nan

instance : Mul Binary64 := ⟨mul⟩

def neg : Binary64 → Binary64
  | .finite s m e => .finite (!s) m e
  | .infinite s => .infinite (!s)
  | .nan => .nan

instance : Neg Binary64 := ⟨neg⟩

/-- `m * 2 ^ e` without its fraction. -/
def wholePart (m : Nat) (e : Int) : Nat := m * power 2 e / power 2 (-e)

/-- The quotient of an integer by a natural number, rounded. -/
def ofQuotient (n : Int) (den : Nat) : Binary64 := ofRatio (n < 0) n.natAbs den

end Binary64

end Wordsmith
