import Wordsmith.Token.Datum
import Wordsmith.Tree.Node

/-!
# From tokens to a tree

A token is a record with a type, and as the case may be content (tokens again, or a text), a raw text
and attributes. A field that is missing has a fallback; a field that is there but holds something
unfit is a `ShapeError`. A token of unknown type that carries a text stays visible as that text, and
one that carries none is left out.
-/

namespace Wordsmith

/-- Why a value is no token tree. -/
inductive ShapeError where
  /-- Fields are read from a value that has none. -/
  | noFields
  /-- Items are read from a value that has none. -/
  | noItems
deriving DecidableEq, Repr

/-- The types of tokens that are known. -/
inductive TokenType where
  | heading
  | paragraph
  | blockCode
  | blockQuote
  | thematicBreak
  | blockHtml
  | blankLine
  | list
  | listItem
  | taskListItem
  | table
  | text
  | strong
  | emphasis
  | strikethrough
  | codeSpan
  | inlineHtml
  | link
  | image
  | lineBreak
  | softBreak
deriving DecidableEq, Repr

/-- All types of tokens with their names; the text of a tight list item is a paragraph as well. -/
def TokenType.names : List (String × TokenType) :=
  [("heading", .heading), ("paragraph", .paragraph), ("block_text", .paragraph),
   ("block_code", .blockCode), ("block_quote", .blockQuote), ("thematic_break", .thematicBreak),
   ("block_html", .blockHtml), ("blank_line", .blankLine), ("list", .list),
   ("list_item", .listItem), ("task_list_item", .taskListItem), ("table", .table),
   ("text", .text), ("strong", .strong), ("emphasis", .emphasis),
   ("strikethrough", .strikethrough), ("codespan", .codeSpan), ("inline_html", .inlineHtml),
   ("link", .link), ("image", .image), ("linebreak", .lineBreak), ("softbreak", .softBreak)]

namespace Datum

/-- The fields of a record. -/
def fields : Datum → Except ShapeError (List (Text × Datum))
  | .record fields => .ok fields
  | _ => .error .noFields

/-- The items of a list. -/
def items : Datum → Except ShapeError (List Datum)
  | .list items => .ok items
  -- texts and records can be walked through too, but their parts have no fields
  | .text [] | .record [] => .ok []
  | .text _ | .record _ => .error .noFields
  | _ => .error .noItems

/-- The text of a value, or of nothing if the value counts as absent. -/
def textIfPresent (d : Datum) : Text := if d.isTruthy then d.toText else []

/-- The integer of a value; anything else counts as zero or one, by whether it is present. -/
def toInt : Datum → Int
  | .whole n => n
  | d => if d.isTruthy then 1 else 0

/-- The value is this text and nothing else. -/
def isText (s : String) : Datum → Bool
  | .text t => t.isLiteral s
  | _ => false

/-- A field is smaller than the record it is in. -/
theorem sizeOf_field?_lt {name : String} {fs : List (Text × Datum)} {d : Datum}
    (found : field? name fs = some d) : sizeOf d < sizeOf fs := by
  induction fs with
  | nil => simp [field?] at found
  | cons entry fs ih =>
    obtain ⟨key, value⟩ := entry
    unfold field? at found
    split at found
    · cases found
      simp +arith
    · have := ih found
      simp only [List.cons.sizeOf_spec]
      omega

end Datum

namespace Token

open Datum

/-- The attributes of a token; without any, there are none. -/
def attributes (fs : List (Text × Datum)) : Except ShapeError (List (Text × Datum)) :=
  ((field? "attrs" fs).getD (.record [])).fields

/-- The value of an attribute, or else of the fallback field of the token, or else `default`. -/
def attributeOr (attrs fs : List (Text × Datum)) (name fallback : String) (default : Datum) :
    Datum :=
  ((field? name attrs).or (field? fallback fs)).getD default

/-- The raw text of a token: what stands in its field `raw`, or else `text`, or else `children`. -/
def raw (fs : List (Text × Datum)) : Text :=
  (((field? "raw" fs).or (field? "text" fs)).or (field? "children" fs)).elim [] toText

/-- The type of a token, absent if it has none or an unknown one. -/
def type? (fs : List (Text × Datum)) : Option TokenType :=
  match field? "type" fs with
  | some (.text name) => lookup? TokenType.names name
  | _ => none

/-- The token has a box to tick. -/
def hasBox (fs : List (Text × Datum)) : Except ShapeError Bool :=
  match field? "attrs" fs with
  | none => .ok false
  | some (.record attrs) => .ok (field? "checked" attrs).isSome
  -- attributes that are no record need only mention it
  | some (.text attrs) => .ok (Text.contains "checked" attrs)
  | some (.list attrs) => .ok (attrs.any (·.isText "checked"))
  | some _ => .error .noItems

/-- The first of these tokens is a table cell. -/
def startsWithCell : List Datum → Except ShapeError Bool
  | [] => .ok false
  | .record fs :: _ => .ok (((field? "type" fs).getD .absent).isText "table_cell")
  | _ :: _ => .error .noFields

mutual

/-- The words below a token: of a token with a list of tokens below it, their words, of any other
its raw text. -/
def words : Datum → Text
  | .text t => t
  | .record fs =>
    match _found : field? "children" fs with
    | some (.list ds) => allWords ds
    | _ => raw fs
  | _ => []
termination_by d => sizeOf d
decreasing_by
  have := sizeOf_field?_lt _found
  simp only [Datum.list.sizeOf_spec, Datum.record.sizeOf_spec] at this ⊢
  omega

/-- The words below tokens, one after the other. -/
def allWords : List Datum → Text
  | [] => []
  | d :: ds => words d ++ allWords ds
termination_by ds => sizeOf ds

end

/-- The words that an image's content shows. -/
def contentWords (d : Datum) : Except ShapeError Text :=
  match d with
  | .text t => .ok t
  | .list ds => .ok (allWords ds)
  -- walking through a record gives the names of its fields
  | .record fs => .ok (fs.flatMap (·.1))
  | d => if d.isTruthy then .error .noItems else .ok []

/-- The words for an image: those given, or else those that its content shows. -/
def imageWords (attrs fs : List (Text × Datum)) : Except ShapeError Text :=
  let given := (attributeOr attrs fs "alt" "alt" (.text [])).textIfPresent
  if given.isEmpty then
    match field? "children" fs with
    | some d => if d.isTruthy then contentWords d else .ok []
    | none => .ok []
  else .ok given

end Token

namespace Node

open Datum Token

mutual

/-- The node of a token, absent if the token shows nothing. -/
def ofToken (token : Datum) : Except ShapeError (Option Node) :=
  match token with
  | .record fs =>
    match type? fs with
    | none =>
      -- a token of no known type is still a text if it has one
      match (field? "raw" fs).or (field? "text" fs) with
      | some (.text t) => return if t.isEmpty then none else some (ofText t)
      | _ => return none
    | some .heading => do
      let attrs ← attributes fs
      let level := (attributeOr attrs fs "level" "level" (.whole 1)).toInt
      return some { kind := .heading, level, children := ← contentOrText fs }
    | some .paragraph => do
      return some { kind := .paragraph, children := ← contentOrText fs }
    | some .blockCode => do
      let attrs ← attributes fs
      let language := (attributeOr attrs fs "info" "info" (.text [])).textIfPresent
      return some { kind := .codeBlock, text := raw fs, language }
    | some .blockQuote => do
      return some { kind := .quote, children := ← content fs }
    | some .thematicBreak => return some { kind := .horizontalRule }
    | some .blockHtml => return some { kind := .html, text := raw fs }
    | some .blankLine => return none
    | some .list => do
      let attrs ← attributes fs
      let ordered := ((field? "ordered" attrs).getD (.flag false)).isTruthy
      let children ← content fs
      let start := (field? "start" attrs).getD (.whole 1)
      return some
        { kind := if ordered then .orderedList else .unorderedList
          children
          start := if start.isTruthy then start.toInt else 1 }
    | some .listItem => do
      if ← hasBox fs then taskItem fs
      else return some { kind := .listItem, children := ← content fs }
    | some .taskListItem => taskItem fs
    | some .table => do return some { kind := .table, children := ← tableRows fs }
    | some .text => return some (ofText (raw fs))
    | some .strong => do return some { kind := .bold, children := ← content fs }
    | some .emphasis => do return some { kind := .italic, children := ← content fs }
    | some .strikethrough => do
      return some { kind := .strikethrough, children := ← content fs }
    | some .codeSpan => return some { kind := .inlineCode, text := raw fs }
    | some .inlineHtml => return some { kind := .html, text := raw fs }
    | some .link => do
      let attrs ← attributes fs
      let url := (attributeOr attrs fs "url" "link" (.text [])).textIfPresent
      let title := ((field? "title" attrs).getD (.text [])).textIfPresent
      return some { kind := .link, url, title, children := ← contentOrText fs }
    | some .image => do
      let attrs ← attributes fs
      let alt ← imageWords attrs fs
      let url := (attributeOr attrs fs "url" "src" (.text [])).textIfPresent
      let title := ((field? "title" attrs).getD (.text [])).textIfPresent
      return some { kind := .image, url, title, alt }
    | some .lineBreak => return some { kind := .lineBreak }
    | some .softBreak => return some { kind := .softBreak }
  | _ => .error .noFields
termination_by (sizeOf token, 0)

/-- The nodes of a sequence of tokens, in order. -/
def ofTokens (tokens : List Datum) : Except ShapeError (List Node) :=
  match tokens with
  | [] => .ok []
  | token :: rest => do
    let node ← ofToken token
    let nodes ← ofTokens rest
    return node.toList ++ nodes
termination_by (sizeOf tokens, 0)

/-- The nodes of a token's content: a text is one text node, unless it is empty; what is neither a
text nor a list has none. -/
def ofContent (d : Datum) : Except ShapeError (List Node) :=
  match d with
  | .text t => .ok (if t.isEmpty then [] else [ofText t])
  | .list ds => ofTokens ds
  | _ => .ok []
termination_by (sizeOf d, 0)

/-- The nodes of the content that a token has in its field `children`. -/
def content (fs : List (Text × Datum)) : Except ShapeError (List Node) :=
  match _found : field? "children" fs with
  | some d => ofContent d
  | none => .ok []
termination_by (sizeOf fs, 0)
decreasing_by
  have := sizeOf_field?_lt _found
  omega

/-- The nodes of the content that a token has in its field `text`. -/
def textContent (fs : List (Text × Datum)) : Except ShapeError (List Node) :=
  match _found : field? "text" fs with
  | some d => ofContent d
  | none => .ok []
termination_by (sizeOf fs, 0)
decreasing_by
  have := sizeOf_field?_lt _found
  omega

/-- The nodes of the content that a token has in its field `children`, or else in `text`. -/
def contentOrText (fs : List (Text × Datum)) : Except ShapeError (List Node) :=
  if ((field? "children" fs).getD .absent).isTruthy then content fs else textContent fs
termination_by (sizeOf fs, 1)

/-- The node of a list item with a box. -/
def taskItem (fs : List (Text × Datum)) : Except ShapeError (Option Node) := do
  let children ← content fs
  let attrs ← attributes fs
  let checked := ((field? "checked" attrs).getD (.flag false)).isTruthy
  return some { kind := .taskListItem, children, checked }
termination_by (sizeOf fs, 1)

/-- The rows of a table. Content that is no list has none, but has to be one that can be walked
through. -/
def tableRows (fs : List (Text × Datum)) : Except ShapeError (List Node) :=
  match _found : field? "children" fs with
  | none => .ok []
  | some (.list ds) => sections ds
  | some d => do
    discard d.items
    return []
termination_by (sizeOf fs, 0)
decreasing_by
  have := sizeOf_field?_lt _found
  simp only [Datum.list.sizeOf_spec] at this
  omega

/-- The rows in the parts of a table: its head, its body, and rows that stand alone. Other parts have
none. -/
def sections (ds : List Datum) : Except ShapeError (List Node) :=
  match ds with
  | [] => .ok []
  | .record fs :: rest => do
    let rows ←
      match field? "type" fs with
      | some (.text name) =>
        if name.isLiteral "table_head" then sectionRows true fs
        else if name.isLiteral "table_body" then sectionRows false fs
        else if name.isLiteral "table_row" then pure [← row false fs]
        else pure []
      | _ => pure []
    return rows ++ (← sections rest)
  | _ :: _ => .error .noFields
termination_by (sizeOf ds, 0)

/-- The rows of a table's head or body. -/
def sectionRows (header : Bool) (fs : List (Text × Datum)) : Except ShapeError (List Node) :=
  match _found : field? "children" fs with
  | none => .ok []
  | some (.list ds) => do
    -- a section whose first token is a cell is one row
    if ← startsWithCell ds then
      return [{ kind := .tableRow, children := ← cells header ds }]
    else rows header ds
  | some d => do
    if d.isTruthy then discard d.items
    return []
termination_by (sizeOf fs, 0)
decreasing_by
  all_goals
    have := sizeOf_field?_lt _found
    simp only [Datum.list.sizeOf_spec] at this
    omega

/-- The rows that the tokens of a section are. -/
def rows (header : Bool) (ds : List Datum) : Except ShapeError (List Node) :=
  match ds with
  | [] => .ok []
  | .record fs :: rest => do
    let first ← row header fs
    return first :: (← rows header rest)
  | _ :: _ => .error .noFields
termination_by (sizeOf ds, 0)

/-- A row with the cells in a token's content. -/
def row (header : Bool) (fs : List (Text × Datum)) : Except ShapeError Node :=
  match _found : field? "children" fs with
  | none => .ok { kind := .tableRow }
  | some (.list ds) => do return { kind := .tableRow, children := ← cells header ds }
  | some d => do
    discard d.items
    return { kind := .tableRow }
termination_by (sizeOf fs, 0)
decreasing_by
  have := sizeOf_field?_lt _found
  simp only [Datum.list.sizeOf_spec] at this
  omega

/-- The cells of a row. -/
def cells (header : Bool) (ds : List Datum) : Except ShapeError (List Node) :=
  match ds with
  | [] => .ok []
  | .record fs :: rest => do
    let children ← content fs
    let attrs ← attributes fs
    -- a cell says itself whether it belongs to the head, or else its section does
    let cell : Node :=
      { kind := .tableCell
        children
        align := ((field? "align" attrs).getD .absent).textIfPresent
        header := ((field? "head" attrs).getD (.flag header)).isTruthy }
    return cell :: (← cells header rest)
  | _ :: _ => .error .noFields
termination_by (sizeOf ds, 0)

end

/-- The document of a tokenizer's answer; no answer is an empty document. -/
def ofDocument (answer : Datum) : Except ShapeError Node := do
  if answer.isTruthy then return { kind := .document, children := ← ofTokens (← answer.items) }
  else return { kind := .document }

end Node

end Wordsmith
