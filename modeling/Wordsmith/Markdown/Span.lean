import Wordsmith.Markdown.Target

/-!
# Inline content

What stands inside a paragraph, a heading or a table cell.
-/

namespace Wordsmith.Markdown

/-- A piece of inline content. -/
inductive Span where
  | text (t : Text)
  | code (t : Text)
  | html (t : Text)
  | softBreak
  | hardBreak
  | emphasis (content : List Span)
  | strong (content : List Span)
  | struck (content : List Span)
  | link (target : Target) (content : List Span)
  | image (target : Target) (content : List Span)

namespace Span

/-- Puts a span before others; neighbouring texts become one, and a text without code points is left
out. -/
def cons (s : Span) (rest : List Span) : List Span :=
  match s, rest with
  | .text [], rest => rest
  | .text t, .text u :: rest => .text (t ++ u) :: rest
  | s, rest => s :: rest

/-- Joins neighbouring texts. -/
def joinTexts (spans : List Span) : List Span := spans.foldr cons []

end Span

end Wordsmith.Markdown
