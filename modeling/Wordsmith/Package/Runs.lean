import Wordsmith.Document.Run
import Wordsmith.Package.Reference

/-!
# Text runs in the body

Neighbouring runs with the same link form a group, and a link mode says what becomes of a group. The
properties of a run stand in the order that the schema asks for.
-/

namespace Wordsmith

/-- What the body needs to know about links: the mode, the colour of linked text, and the table of
targets. -/
structure LinkPolicy where
  mode : LinkMode
  color : Text
  table : LinkTable

namespace Markup

/-- Text of a run; blanks at its ends count. -/
def runText (t : Text) : Markup :=
  .element "w:t" [.fixed "xml:space" "preserve"] [.text t.strip.escape]

end Markup

namespace Run

/-- The properties of a run. -/
def properties (p : LinkPolicy) (r : Run) : List Markup :=
  let linked := r.target?.isSome
  (if r.code then [.value "w:rStyle" "Code"] else []) ++
    (if r.bold then [.empty "w:b" []] else []) ++
    (if r.italic then [.empty "w:i" []] else []) ++
    (if r.struck then [.empty "w:strike" []] else []) ++
    -- a linked run is coloured, and underlined unless links are only coloured
    (if linked then [.value "w:color" p.color] else []) ++
    (if r.underlined || (linked && p.mode ≠ .coloredText) then [.value "w:u" "single"] else [])

/-- A run with its properties, which are left out if there are none. -/
def markup (p : LinkPolicy) (r : Run) : Markup :=
  let properties := r.properties p
  .element "w:r" []
    ((if properties.isEmpty then [] else [.element "w:rPr" [] properties]) ++ [.runText r.text])

/-- Neighbouring runs with equal links, and the link of each group. -/
def linkGroups : List Run → List (Option Text × List Run)
  | [] => []
  | r :: rs =>
    match linkGroups rs with
    | (link, group) :: groups =>
      if r.link = link then (link, r :: group) :: groups else (r.link, [r]) :: (link, group) :: groups
    | [] => [(r.link, [r])]

/-- The text that shows a link target after the runs that are linked to it. -/
def shownTarget (target : Text) : Run := { text := " (" ++ target ++ ")" }

/-- A group of runs with this link in the body. -/
def groupMarkup (p : LinkPolicy) (link : Option Text) (group : List Run) : List Markup :=
  let body := group.map (markup p)
  match link.filter (!·.isEmpty) with
  | none => body
  | some target =>
    match p.mode with
    | .coloredText => body
    | .inlineUrl => body ++ [(shownTarget target).markup p]
    | .hyperlink =>
      match p.table.name? target with
      | none => body
      | some name => [.element "w:hyperlink" [.verbatim "r:id" name] body]

/-- The runs of a paragraph, group by group. -/
def allMarkup (p : LinkPolicy) (runs : List Run) : List Markup :=
  (linkGroups runs).flatMap fun (link, group) => groupMarkup p link group

end Run

end Wordsmith
