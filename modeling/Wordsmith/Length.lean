import Wordsmith.Number.Binary64
import Wordsmith.Text.Quoted

/-!
# Lengths

Page geometry, spacing and indentation are whole numbers of twips, a twentieth of a point each. A
`Length` is given in a unit that people use; it becomes twips by one multiplication in floating
point, after which the fraction is dropped.
-/

namespace Wordsmith

/-- A unit that a length can be given in. -/
inductive LengthUnit where
  | inch
  | point
  | centimeter
  | millimeter
  | twip
deriving DecidableEq, Repr

/-- The amount of a length: an integer of any size, or a floating point number. -/
inductive Amount where
  | whole (n : Int)
  | real (x : Binary64)
deriving DecidableEq, Repr

/-- A length as it was given. Lengths of different units are never equal, even if their twips are. -/
structure Length where
  amount : Amount
  unit : LengthUnit := .twip
deriving DecidableEq, Repr

/-- Why a length has no number of twips. -/
inductive LengthError where
  /-- The number of twips would be infinite. -/
  | infinite
  /-- The amount is not a number. -/
  | notANumber
  /-- The amount is an integer beyond the range of floating point numbers. -/
  | wholeTooLarge
  /-- A quotient lies beyond the range of floating point numbers. -/
  | quotientTooLarge
deriving DecidableEq, Repr

namespace LengthError

def message : LengthError → Text
  | .infinite => "cannot convert float infinity to integer"
  | .notANumber => "cannot convert float NaN to integer"
  | .wholeTooLarge => "int too large to convert to float"
  | .quotientTooLarge => "integer division result too large for a float"

end LengthError

namespace LengthUnit

/-- All units with their names. -/
def names : List (String × LengthUnit) :=
  [("inch", .inch), ("point", .point), ("centimeter", .centimeter),
   ("millimeter", .millimeter), ("twip", .twip)]

/-- The number of twips in one unit: 1440, 20, 566.93, 56.69 and 1, as floating point numbers. -/
def twips : LengthUnit → Binary64
  | .inch => .ofInt 1440
  | .point => .ofInt 20
  | .centimeter => .ofDecimal false 56693 (-2)
  | .millimeter => .ofDecimal false 5669 (-2)
  | .twip => .ofInt 1

end LengthUnit

/-- A floating point number without its fraction. -/
def Binary64.toInt : Binary64 → Except LengthError Int
  | .finite negative m e => .ok (if negative then -(wholePart m e : Int) else wholePart m e)
  | .infinite _ => .error .infinite
  | .nan => .error .notANumber

/-- The floating point number nearest to an amount, unless there is only an infinite one. -/
def Amount.toBinary64 : Amount → Except LengthError Binary64
  | .whole n =>
    match Binary64.ofInt n with
    | .infinite _ => .error .wholeTooLarge
    | x => .ok x
  | .real x => .ok x

/-- A tenth of an integer, without its fraction. -/
def tenth (n : Int) : Except LengthError Int :=
  -- the quotient is rounded to floating point before its fraction is dropped
  match Binary64.ofQuotient n 10 with
  | .infinite _ => .error .quotientTooLarge
  | x => x.toInt

namespace Length

def inches (x : Amount) : Length := ⟨x, .inch⟩

def points (x : Amount) : Length := ⟨x, .point⟩

def centimeters (x : Amount) : Length := ⟨x, .centimeter⟩

def millimeters (x : Amount) : Length := ⟨x, .millimeter⟩

/-- The whole twips of a length; the fraction is dropped, also below zero. -/
def twips (l : Length) : Except LengthError Int := do
  let amount ← l.amount.toBinary64
  (amount * l.unit.twips).toInt

/-- The length as a font size in half-points: a tenth of its twips. -/
def halfPoints (l : Length) : Except LengthError Int := do tenth (← l.twips)

end Length

end Wordsmith
