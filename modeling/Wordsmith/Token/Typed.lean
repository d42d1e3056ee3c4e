import Wordsmith.Token.Datum

/-!
# What the fields of tokens hold

Tokens are read without a look at what their fields hold, as long as it can be told whether that counts
as present. What is made of them later does depend on it: levels are compared with numbers, and targets
and words are put between other texts. A tokenizer gives numbers and texts there. `Datum.isWellTyped`
says so for a value and everything in it.
-/

namespace Wordsmith.Datum

/-- Fields that hold a number. -/
def numberFields : List String := ["level", "start"]

/-- Fields that hold a text, or nothing. -/
def textFields : List String := ["info", "url", "link", "src", "title", "alt", "align"]

def isWhole : Datum → Bool
  | .whole _ => true
  | _ => false

/-- A text, or the value that stands for none. -/
def isWordsOrAbsent : Datum → Bool
  | .text _ | .absent => true
  | _ => false

mutual

/-- Numbers and texts stand where they belong, in a value and in all that it holds. -/
def isWellTyped : Datum → Bool
  | .list items => areWellTyped items
  | .record fields => fieldsWellTyped fields
  | _ => true

def areWellTyped : List Datum → Bool
  | [] => true
  | d :: ds => d.isWellTyped && areWellTyped ds

def fieldsWellTyped : List (Text × Datum) → Bool
  | [] => true
  | (name, d) :: fields =>
    (!numberFields.any name.isLiteral || d.isWhole) &&
      (!textFields.any name.isLiteral || d.isWordsOrAbsent) && d.isWellTyped && fieldsWellTyped fields

end

end Wordsmith.Datum
