import Wordsmith.Token.Tree
import Wordsmith.Token.Typed

/-!
# From a tree to tokens

A tree is written as tokens, each node as a token with its fields as raw text, attributes or tokens below
it. Only the fields of its kind are written, since no other field is read.
-/

namespace Wordsmith

/-- A text token. -/
def Token.word (t : Text) : Datum := .record [("type", .text "text"), ("raw", .text t)]

/-- The type of the token that a node of this kind is written as. -/
def NodeKind.tokenType : NodeKind → String
  | .document => "document"
  | .heading => "heading"
  | .paragraph => "paragraph"
  | .text => "text"
  | .bold => "strong"
  | .italic => "emphasis"
  | .strikethrough => "strikethrough"
  | .inlineCode => "codespan"
  | .codeBlock => "block_code"
  | .orderedList | .unorderedList => "list"
  | .listItem => "list_item"
  | .taskListItem => "task_list_item"
  | .table => "table"
  | .tableRow => "table_row"
  | .tableCell => "table_cell"
  | .quote => "block_quote"
  | .horizontalRule => "thematic_break"
  | .link => "link"
  | .image => "image"
  | .html => "inline_html"
  | .lineBreak => "linebreak"
  | .softBreak => "softbreak"

namespace Node

open Token

mutual

/-- The token that a node is written as. -/
def token : Node → Datum
  | { kind, children, text, level, language, url, title, alt, align, header, checked, start } =>
    let attributes (fields : List (Text × Datum)) : Text × Datum := ("attrs", .record fields)
    let below : Text × Datum := ("children", .list (tokens children))
    .record (("type", .text kind.tokenType) ::
      match kind with
      | .heading => [attributes [("level", .whole level)], below]
      | .text | .inlineCode | .html => [("raw", .text text)]
      | .codeBlock => [attributes [("info", .text language)], ("raw", .text text)]
      | .orderedList =>
        -- one is what a list starts from if nothing is said
        [attributes (("ordered", .flag true) :: if start = 1 then [] else [("start", .whole start)]),
          below]
      | .unorderedList => [attributes [("ordered", .flag false)], below]
      | .taskListItem => [attributes [("checked", .flag checked)], below]
      | .table => [("children", .list [.record [("type", .text "table_body"), below]])]
      | .tableCell => [attributes [("align", .text align), ("head", .flag header)], below]
      | .link => [attributes [("url", .text url), ("title", .text title)], below]
      | .image =>
        [attributes [("url", .text url), ("title", .text title)],
          ("children", .list [word alt])]
      | .horizontalRule | .lineBreak | .softBreak => []
      | _ => [below])

def tokens : List Node → List Datum
  | [] => []
  | n :: ns => n.token :: tokens ns

end

/-! ### Types

Whatever a node holds, the fields of its token hold numbers and texts where they should. -/

mutual

theorem isWellTyped_token (n : Node) : n.token.isWellTyped = true := by
  obtain ⟨kind, children, text, level, language, url, title, alt, align, header, checked, start⟩ := n
  have hchildren := areWellTyped_tokens children
  unfold token
  cases kind
  case orderedList =>
    -- the number of a list that starts from one is not written
    dsimp only
    split <;> simp only [Datum.isWellTyped, Datum.fieldsWellTyped, hchildren] <;> rfl
  -- what has no tokens below it holds nothing but texts
  case text | inlineCode | html | codeBlock | image | horizontalRule | lineBreak | softBreak =>
    rfl
  all_goals
    simp only [Datum.isWellTyped, Datum.areWellTyped, Datum.fieldsWellTyped, hchildren]
    rfl

theorem areWellTyped_tokens (ns : List Node) : Datum.areWellTyped (tokens ns) = true :=
  match ns with
  | [] => rfl
  | n :: ns => by
    rw [tokens, Datum.areWellTyped, isWellTyped_token n, areWellTyped_tokens ns]
    rfl

end

end Node

end Wordsmith
