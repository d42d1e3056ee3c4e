import Wordsmith.Markup.Escape

/-!
# Markup

Markup is a tree of elements, attributes and text; `Markup.print` is the only place that writes angle
brackets. Attribute values and text are held as they are written, escaped or not, so that printing
looks at nothing but the tree. An element without content can be written with one tag or with two.
-/

namespace Wordsmith

/-- An attribute; its value is held as it is written between the quotation marks. -/
structure Attribute where
  name : String
  written : Text
deriving DecidableEq

namespace Attribute

/-- An attribute whose value is a text to be escaped. -/
def escaped (name : String) (value : Text) : Attribute := ⟨name, value.escape⟩

/-- An attribute whose value is written as it is. -/
def verbatim (name : String) (value : Text) : Attribute := ⟨name, value⟩

/-- An attribute whose value is an integer in decimal notation. -/
def int (name : String) (value : Int) : Attribute := ⟨name, .ofInt value⟩

/-- An attribute whose value is a fixed text without special characters. -/
def fixed (name value : String) : Attribute := ⟨name, value⟩

/-- The attribute as it stands in a tag, after a space. -/
def print (a : Attribute) : Text :=
  " " ++ Text.ofString a.name ++ "=\"" ++ a.written ++ "\""

end Attribute

/-- A piece of markup: text, or an element with attributes and children. -/
inductive Markup where
  /-- Text, held as it is written. -/
  | text (written : Text)
  /-- An element that is written with one tag. -/
  | empty (tag : String) (attributes : List Attribute)
  /-- An element that is written with two tags. -/
  | element (tag : String) (attributes : List Attribute) (children : List Markup)

namespace Markup

/-- A tag with its attributes, without the brackets. -/
def printTag (tag : String) (attributes : List Attribute) : Text :=
  Text.ofString tag ++ attributes.flatMap Attribute.print

mutual

/-- Markup as it is written, without blanks or line breaks between the tags. -/
def print : Markup → Text
  | .text written => written
  | .empty tag attributes => "<" ++ printTag tag attributes ++ "/>"
  | .element tag attributes children =>
    "<" ++ printTag tag attributes ++ ">" ++ printAll children ++ "</" ++ Text.ofString tag ++ ">"

/-- Pieces of markup, one written after the other. -/
def printAll : List Markup → Text
  | [] => []
  | m :: ms => m.print ++ printAll ms

end

/-- An element that is written with one tag and has one attribute, `w:val`. -/
def value (tag : String) (written : Text) : Markup := .empty tag [⟨"w:val", written⟩]

end Markup

end Wordsmith
