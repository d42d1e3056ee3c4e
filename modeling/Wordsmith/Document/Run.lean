import Wordsmith.Text.Basic

/-!
# Text runs

A run is a piece of text with one set of marks. Marking keeps the text, so a sequence of runs can be
marked run by run.
-/

namespace Wordsmith

/-- A piece of text with one set of marks. -/
structure Run where
  text : Text
  bold : Bool := false
  italic : Bool := false
  underlined : Bool := false
  struck : Bool := false
  code : Bool := false
  /-- The target of the link that the run belongs to. -/
  link : Option Text := none
deriving DecidableEq

namespace Run

def withBold (r : Run) (bold : Bool := true) : Run := { r with bold }

def withItalic (r : Run) (italic : Bool := true) : Run := { r with italic }

def withStruck (r : Run) (struck : Bool := true) : Run := { r with struck }

/-- The run with this link, or without any. -/
def withLink (r : Run) (link : Option Text) : Run := { r with link }

/-- The target of the run's link, absent if it is empty. -/
def target? (r : Run) : Option Text := r.link.filter (!·.isEmpty)

end Run

/-- The texts of the runs, one after another. -/
def Run.allText (runs : List Run) : Text := runs.flatMap (·.text)

end Wordsmith
