/-!
# Text as a sequence of code points

A document may carry a surrogate that stands alone: such a text can be held, cut, joined and
escaped, and only its encoding fails. `Char` and `String` cannot hold it, so texts are lists of
`CodePoint`. Literals are written as usual: a `Char` or `String` is read as the code points it
consists of.
-/

namespace Wordsmith

/-- A number of the Unicode code space, surrogates included. -/
structure CodePoint where
  val : Nat
  val_lt : val < 0x110000
deriving DecidableEq

/-- A text: code points in reading order. -/
abbrev Text := List CodePoint

namespace CodePoint

theorem toNat_lt (c : Char) : c.toNat < 0x110000 := by
  have valid := c.valid
  simp only [UInt32.isValidChar, Nat.isValidChar] at valid
  have : c.val.toNat = c.toNat := rfl
  omega

/-- The code point of a character. -/
def ofChar (c : Char) : CodePoint := ⟨c.toNat, toNat_lt c⟩

instance : Coe Char CodePoint := ⟨ofChar⟩

instance : Inhabited CodePoint := ⟨'\uFFFD'⟩

/-- The code point with number `n`; the replacement character if `n` lies outside the code space. -/
def ofNat (n : Nat) : CodePoint :=
  if h : n < 0x110000 then ⟨n, h⟩ else '\uFFFD'

/-- Surrogates are code points that no character encoding form can write. -/
def isSurrogate (c : CodePoint) : Bool := 0xD800 ≤ c.val && c.val < 0xE000

/-- The character of a code point, absent for a surrogate. -/
def toChar? (c : CodePoint) : Option Char :=
  if h : c.val.isValidChar then some (Char.ofNatAux c.val h) else none

/-- `c` lies between the characters `lo` and `hi`, both included. -/
def isBetween (lo hi : Char) (c : CodePoint) : Bool := lo.toNat ≤ c.val && c.val ≤ hi.toNat

def isDigit (c : CodePoint) : Bool := c.isBetween '0' '9'

def isUpper (c : CodePoint) : Bool := c.isBetween 'A' 'Z'

/-- The letters `A` to `Z` and `a` to `z`. -/
def isLetter (c : CodePoint) : Bool := c.isUpper || c.isBetween 'a' 'z'

/-- The small letter of `A` to `Z`; any other code point is kept. -/
def toLower (c : CodePoint) : CodePoint := if c.isUpper then ofNat (c.val + 32) else c

/-- The value of a digit in base sixteen. -/
def hexValue? (c : CodePoint) : Option Nat :=
  if c.isDigit then some (c.val - 48)
  else if c.isBetween 'a' 'f' then some (c.val - 87)
  else if c.isBetween 'A' 'F' then some (c.val - 55)
  else none

/-- `c` is one of the characters of `s`. -/
def isIn (s : String) (c : CodePoint) : Bool := s.toList.any fun d => c = d

end CodePoint

namespace Text

def ofString (s : String) : Text := s.toList.map CodePoint.ofChar

instance : Coe String Text := ⟨ofString⟩

/-- The string with these code points, absent if one of them is a surrogate. -/
def toString? (t : Text) : Option String := (t.mapM CodePoint.toChar?).map String.ofList

/-- `t` is written with the characters of `s`. -/
def isLiteral (s : String) (t : Text) : Bool := t = ofString s

/-- Capital letters `A` to `Z` made small. -/
def toLower (t : Text) : Text := t.map CodePoint.toLower

/-- Decimal digits, after a hyphen if the number is negative. -/
def ofInt (n : Int) : Text := ofString (toString n)

/-- Decimal digits. -/
def ofNat (n : Nat) : Text := ofString (toString n)

/-- The texts one after another with `between` between neighbours. -/
def join (between : Text) : List Text → Text
  | [] => []
  | [t] => t
  | t :: ts => t ++ between ++ join between ts

/-- What follows `lead` in `t`, absent if `t` starts otherwise. -/
def dropLead? : (lead t : Text) → Option Text
  | [], t => some t
  | _ :: _, [] => none
  | c :: lead, d :: t => if c = d then dropLead? lead t else none

def startsWith (lead t : Text) : Bool := (dropLead? lead t).isSome

def contains (part : Text) : Text → Bool
  | [] => part.isEmpty
  | c :: t => startsWith part (c :: t) || contains part t

/-- The code points before the last `mark`, and those after it; absent if there is none. -/
def splitLast? (mark : CodePoint) (t : Text) : Option (Text × Text) :=
  match t.reverse.span (· ≠ mark) with
  | (_, []) => none
  | (after, _ :: before) => some (before.reverse, after.reverse)

/-- The code points before the first `mark`, and those after it; absent if there is none. -/
def splitFirst? (mark : CodePoint) (t : Text) : Option (Text × Text) :=
  match t.span (· ≠ mark) with
  | (_, []) => none
  | (before, _ :: after) => some (before, after)

/-- The parts of a text between the marks; there is one part more than there are marks. -/
def splitAll (mark : CodePoint) : Text → List Text
  | [] => [[]]
  | c :: t =>
    if c = mark then [] :: splitAll mark t
    else
      match splitAll mark t with
      | [] => [[c]]
      | part :: parts => (c :: part) :: parts

/-- Leading code points that satisfy `p` are dropped, and trailing ones. -/
def trim (p : CodePoint → Bool) (t : Text) : Text :=
  ((t.dropWhile p).reverse.dropWhile p).reverse

end Text

end Wordsmith
