import Wordsmith.Style.Page

/-!
# Names of presets, paper sizes and choices

Styles are chosen by name. A name that stands for nothing is a `NameError`, whose message quotes it
and, where there is a list to choose from, gives the list.
-/

namespace Wordsmith

/-- A complete style that can be chosen by name. -/
inductive Preset where
  | default
  | academic
  | business
  | minimal
deriving DecidableEq, Repr

/-- All presets with their names, in the order in which they are offered. -/
def Preset.names : List (String × Preset) :=
  [("default", .default), ("academic", .academic), ("business", .business), ("minimal", .minimal)]

/-- A name that stands for nothing. -/
inductive NameError where
  /-- No preset has this name. -/
  | preset (name : Text)
  /-- No paper size has this name. -/
  | pageSize (name : Text)
  /-- No value of the enumeration `kind` has this name. -/
  | value (kind : String) (name : Text)
deriving DecidableEq

/-- The names of a list of named values, separated by commas. -/
def nameList {α : Type} (names : List (String × α)) : Text :=
  Text.join ", " (names.map fun entry => Text.ofString entry.1)

/-- The wording of an error. Only presets and paper sizes have lists to choose from. -/
def NameError.message : NameError → Text
  | .preset name => "Unknown preset " ++ name.quoted ++ ". Choose from: " ++ nameList Preset.names
  | .pageSize name =>
    "Unknown page size " ++ name.quoted ++ ". Choose from: " ++ nameList Paper.names
  | .value kind name => name.quoted ++ " is not a valid " ++ Text.ofString kind

/-- The value that a list of named values gives to `name`. -/
def lookup? {α : Type} (names : List (String × α)) (name : Text) : Option α :=
  (names.find? fun entry => name.isLiteral entry.1).map (·.2)

/-- The value with this name, or an error that blames the name. -/
def lookup {α : Type} (names : List (String × α)) (blame : Text → NameError) (name : Text) :
    Except NameError α :=
  (lookup? names name).elim (.error (blame name)) .ok

/-- The preset with this name, in small letters. -/
def Preset.ofName : Text → Except NameError Preset := lookup names .preset

/-- The paper size with this name. Capital letters count as small ones; no letter beyond `A` to `Z`
has a small form that occurs in a name. -/
def Paper.ofName (name : Text) : Except NameError Paper :=
  (lookup? names name.toLower).elim (.error (.pageSize name)) .ok

def LengthUnit.ofName : Text → Except NameError LengthUnit := lookup names (.value "Unit")

def LineRule.ofName : Text → Except NameError LineRule := lookup names (.value "LineSpacingType")

def BorderStyle.ofName : Text → Except NameError BorderStyle := lookup names (.value "BorderStyle")

def Alignment.ofName : Text → Except NameError Alignment := lookup names (.value "TextAlignment")

def LinkMode.ofName : Text → Except NameError LinkMode := lookup names (.value "HyperlinkMode")

end Wordsmith
