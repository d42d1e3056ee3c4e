import Wordsmith.Markup.Basic
import Wordsmith.Style.Style

/-!
# Properties of paragraphs and runs

How spacing, indentation, borders and fonts are written. A property that says nothing is left out, so
each of these is a list of at most one element.
-/

namespace Wordsmith

/-- An attribute that is written only for a positive value. -/
def Attribute.ifPositive (name : String) (value : Int) : List Attribute :=
  if 0 < value then [.int name value] else []

/-- An attribute that is written if there is a value. -/
def Attribute.ifPresent (name : String) (value : Option Int) : List Attribute :=
  value.toList.map (.int name)

/-- An element with one tag, left out if it has no attributes. -/
def Markup.unlessBare (tag : String) (attributes : List Attribute) : List Markup :=
  if attributes.isEmpty then [] else [.empty tag attributes]

namespace LineSpacing

/-- The attributes of a line height. -/
def attributes (s : LineSpacing) : List Attribute :=
  match s.value with
  | some value =>
    match s.rule with
    | .auto => []
    -- a multiple of the line is what the format calls `auto`
    | .multiple => [.int "w:line" value, .fixed "w:lineRule" "auto"]
    | rule => [.int "w:line" value, .fixed "w:lineRule" rule.name]
  | none => []

end LineSpacing

namespace Spacing

/-- The spacing of paragraphs in a document with this line spacing. -/
def markup (s : Spacing) (lineSpacing : LineSpacing := {}) : List Markup :=
  Markup.unlessBare "w:spacing"
    (Attribute.ifPositive "w:before" s.before ++ Attribute.ifPositive "w:after" s.after ++
      -- a line height of its own wins over that of the document
      match s.line with
      | some line => [.int "w:line" line, .fixed "w:lineRule" "exactly"]
      | none => lineSpacing.attributes)

end Spacing

namespace Indentation

def markup (i : Indentation) : List Markup :=
  Markup.unlessBare "w:ind"
    (Attribute.ifPositive "w:left" i.left ++ Attribute.ifPositive "w:right" i.right ++
      Attribute.ifPresent "w:firstLine" i.firstLine ++ Attribute.ifPresent "w:hanging" i.hanging)

end Indentation

namespace BorderSide

/-- One side of a border; its colour is written as it is. -/
def markup (edge : String) (s : BorderSide) : Markup :=
  .empty ("w:" ++ edge)
    [.fixed "w:val" s.style.name, .int "w:sz" s.width, .fixed "w:space" "1",
      .verbatim "w:color" s.color]

end BorderSide

namespace Border

/-- The sides of a border that are present. -/
def sideMarkup (b : Border) : List Markup := b.sides.map fun (edge, side) => side.markup edge

def paragraphMarkup (b : Border) : List Markup :=
  if b.isEmpty then [] else [.element "w:pBdr" [] b.sideMarkup]

end Border

namespace Font

/-- The face of a font, for every script. -/
def faceMarkup (name : Text) : Markup :=
  .empty "w:rFonts"
    [.escaped "w:ascii" name, .escaped "w:eastAsia" name, .escaped "w:hAnsi" name,
      .escaped "w:cs" name]

/-- The colour of a font, written as it is. -/
def colorMarkup (f : Font) : Markup := .value "w:color" f.color

/-- The size of a font, for every script. -/
def sizeMarkup (f : Font) : List Markup :=
  [.value "w:sz" (.ofInt f.size), .value "w:szCs" (.ofInt f.size)]

/-- The run properties of a style with this font. -/
def markup (f : Font) (bold italic : Bool := false) (kern : Option Int := none)
    (extra : List Markup := []) : Markup :=
  .element "w:rPr" []
    ([faceMarkup f.name] ++ (if bold then [.empty "w:b" [], .empty "w:bCs" []] else []) ++
      (if italic then [.empty "w:i" [], .empty "w:iCs" []] else []) ++ [f.colorMarkup] ++
      kern.toList.map (fun n => .value "w:kern" (.ofInt n)) ++ f.sizeMarkup ++ extra)

end Font

end Wordsmith
