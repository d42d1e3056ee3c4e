import Wordsmith.Document.Run
import Wordsmith.Tree.Node

/-!
# The text runs of a tree

Inline formatting is flattened: a wrapper (bold, italic, strikethrough, link) marks every run that
its children give, so nested emphasis loses no text. A node that is neither a wrapper nor a text, a
piece of code or a break gives no runs, and neither does anything below it.
-/

namespace Wordsmith.Node

/-- How a wrapper of this kind with this target marks a run; absent if the kind is no wrapper. -/
def marking? (kind : NodeKind) (url : Text) : Option (Run → Run) :=
  match kind with
  | .bold => some (·.withBold)
  | .italic => some (·.withItalic)
  | .strikethrough => some (·.withStruck)
  | .link => some (·.withLink (if url.isEmpty then none else some url))
  | _ => none

/-- One run with this text, or none if there is no text. -/
def textRuns (text : Text) : List Run := if text.isEmpty then [] else [{ text }]

mutual

def runs : Node → List Run
  | { kind, children, text, url, .. } =>
    match kind with
    -- a text node with children shows them and not its text
    | .text => if children.isEmpty then textRuns text else allRuns children
    | .inlineCode => [{ text, code := true }]
    | .softBreak => [{ text := " " }]
    | .lineBreak => [{ text := " " }]
    | kind =>
      match marking? kind url with
      | some mark => (allRuns children).map mark
      | none => []

/-- The runs of a sequence of nodes, in order. -/
def allRuns : List Node → List Run
  | [] => []
  | n :: ns => n.runs ++ allRuns ns

end

end Wordsmith.Node
