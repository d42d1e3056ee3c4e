import Wordsmith.Document.Element

/-!
# Links of a document

All link targets in the order in which the text runs that carry them are read, repetitions included.
The runs of headings and code blocks are not stored, so they have no links; neither have parts of
elements that stand alone.
-/

namespace Wordsmith

/-- The targets of the runs that have one. -/
def Run.targets (runs : List Run) : List Text := runs.filterMap Run.target?

mutual

def Element.links : Element → List Text
  | .paragraph runs => Run.targets runs
  | .quote runs => Run.targets runs
  | .bulletList items => items.flatMap fun item => Run.targets item.runs
  | .numberedList items => items.flatMap fun item => Run.targets item.runs
  | .table rows => Row.allLinks rows
  -- headings and code have no runs, parts of elements are not written
  | _ => []

/-- The link targets in the rows of a table. -/
def Row.allLinks : List Row → List Text
  | [] => []
  | ⟨cells, _⟩ :: rows => Cell.allLinks cells ++ Row.allLinks rows

/-- The link targets in the cells of a row. -/
def Cell.allLinks : List Cell → List Text
  | [] => []
  | ⟨content⟩ :: cells => Element.allLinks content ++ Cell.allLinks cells

def Element.allLinks : List Element → List Text
  | [] => []
  | e :: es => e.links ++ Element.allLinks es

end

end Wordsmith
