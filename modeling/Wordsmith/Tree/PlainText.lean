import Wordsmith.Tree.Node

/-!
# The visible text of a tree

All formatting dropped: a break reads as a space, an image as the words for it, and raw HTML as
nothing.
-/

namespace Wordsmith.Node

mutual

/-- The visible text of a node and everything below it. -/
def plainText : Node → Text
  | { kind, children, text, alt, .. } =>
    if kind.isBreak then " "
    else if kind = .image then alt
    else if kind = .html then []
    else text ++ plainTexts children

/-- The visible texts of a sequence of nodes, one after another. -/
def plainTexts : List Node → Text
  | [] => []
  | n :: ns => n.plainText ++ plainTexts ns

end

end Wordsmith.Node
