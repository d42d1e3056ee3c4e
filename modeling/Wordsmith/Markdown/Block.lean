import Wordsmith.Markdown.Table
import Wordsmith.Markdown.Target

/-!
# Blocks

The structure of a document before the inline content is read. Items stand by themselves: a list is a
sequence of neighbouring items with the same mark. A definition shows nothing, but it parts the items
before it from those after it.
-/

namespace Wordsmith.Markdown

/-- What the items of one list have in common: the bullet, or what follows the number. -/
inductive ListMark where
  | bullet (mark : CodePoint)
  | ordered (delimiter : CodePoint)
deriving DecidableEq

/-- A block of a document, its inline content still a text. -/
inductive Block where
  | heading (level : Nat) (text : Text)
  | paragraph (text : Text)
  | definition (d : Definition)
  | code (info text : Text)
  | html (text : Text)
  | rule
  | table (alignments : List (Option Alignment)) (header : List Text) (rows : List (List Text))
  | quote (content : List Block)
  | item (mark : ListMark) (number : Nat) (content : List Block)

namespace Block

mutual

/-- The definitions in a block, in order. -/
def definitions : Block → List Definition
  | .definition d => [d]
  | .quote content => allDefinitions content
  | .item _ _ content => allDefinitions content
  | _ => []

/-- The definitions in a sequence of blocks, in order. -/
def allDefinitions : List Block → List Definition
  | [] => []
  | b :: bs => b.definitions ++ allDefinitions bs

end

/-- The blocks of a paragraph: the definitions that it starts with, and what is left of it unless that
is blank. -/
def ofParagraph (t : Text) : List Block :=
  let (ds, rest) := Markdown.definitions t
  let text := Text.trim isGap rest
  ds.map .definition ++ if text.isEmpty then [] else [.paragraph text]

end Block

end Wordsmith.Markdown
