import Wordsmith.Proofs.Token.Content
import Wordsmith.Token.Writer

/-!
# What a token is read as

The fields of a token that count for its type, and for each type the node that a token is read as if
its content can be read. A table is read in parts, its rows in a head or a body, and its cells row by
row.

The statements have the form: if the token is typed so, and its content is read as these nodes, then it
is read as this node. The hypotheses are about single fields (`IsTyped`, `HasChildren`, `HasRaw`,
`HasAttributes`), so a token may have any other fields besides.
-/

namespace Wordsmith

open Datum Token

namespace Token

/-- The token has the type of this name. -/
def IsTyped (name : String) (fs : List (Text × Datum)) : Prop :=
  field? "type" fs = some (.text name)

/-- The token has these tokens below it. -/
def HasChildren (fs : List (Text × Datum)) (ds : List Datum) : Prop :=
  field? "children" fs = some (.list ds)

/-- The token has this raw text. -/
def HasRaw (fs : List (Text × Datum)) (t : Text) : Prop := field? "raw" fs = some (.text t)

/-- The token has these attributes; without the field there are none. -/
def HasAttributes (fs attrs : List (Text × Datum)) : Prop :=
  (field? "attrs" fs).getD (.record []) = .record attrs

/-- The token has its inline content in the tokens below it. Where there are none, there is no other
field that stands in for them. -/
structure HasInline (fs : List (Text × Datum)) (ds : List Datum) : Prop where
  children : HasChildren fs ds
  noText : ds = [] → field? "text" fs = none

end Token

namespace Node

variable {fs attrs : List (Text × Datum)} {ds : List Datum} {nodes : List Node}

/-! ## Fields

A field that is there in the type that is asked for is read as it is. The readers of content have a
second choice: inline content can stand in the field `text` if there are no tokens below
(`contentOrText`), which `HasInline` rules out. -/

/-- The name of the type is looked up among the types that are known. -/
theorem type?_of_isTyped {name : String} (h : IsTyped name fs) :
    type? fs = lookup? TokenType.names name := by
  unfold type?
  rw [h]

theorem attributes_of_hasAttributes (h : HasAttributes fs attrs) : attributes fs = .ok attrs := by
  unfold attributes
  rw [h]
  rfl

theorem raw_of_hasRaw {t : Text} (h : HasRaw fs t) : raw fs = t := by
  unfold raw
  rw [h]
  rfl

/-- A text is itself, also if it is empty and counts as absent. -/
theorem textIfPresent_text (t : Text) : (Datum.text t).textIfPresent = t := by
  cases t <;> rfl

theorem content_of_hasChildren (h : HasChildren fs ds) (hnodes : ofTokens ds = .ok nodes) :
    content fs = .ok nodes := by
  rw [content_eq, h]
  exact (ofContent_eq _).trans hnodes

/-- Inline content is read from the tokens below, if there are any or if no text stands in for them. -/
theorem contentOrText_of_hasInline (h : HasInline fs ds) (hnodes : ofTokens ds = .ok nodes) :
    contentOrText fs = .ok nodes := by
  rw [contentOrText, h.children]
  cases ds with
  | nil =>
    -- an empty list counts as absent, and then the field `text` is asked
    rw [if_neg (by decide), textContent_eq, h.noText rfl]
    rw [ofTokens] at hnodes
    exact hnodes
  | cons d ds =>
    have hpresent : ((some (Datum.list (d :: ds))).getD .absent).isTruthy = true := rfl
    rw [if_pos hpresent]
    exact content_of_hasChildren h.children hnodes

/-- An item has a box if its attributes say whether that is ticked. -/
theorem hasBox_of_hasAttributes (hattrs : HasAttributes fs attrs) :
    hasBox fs = .ok (field? "checked" attrs).isSome := by
  unfold HasAttributes at hattrs
  unfold hasBox
  -- without attributes there is no box; with them the field `checked` decides
  cases hfield : field? "attrs" fs with
  | none =>
    rw [hfield] at hattrs
    obtain rfl := Datum.record.inj hattrs
    rfl
  | some d =>
    rw [hfield] at hattrs
    change d = .record attrs at hattrs
    subst hattrs
    rfl

/-! ## Sequences

Tokens are read in order, and a token that gives no node is left out. -/

theorem ofTokens_nil : ofTokens [] = .ok [] := by rw [ofTokens]

theorem ofTokens_cons {token : Datum} {node : Option Node} (h : ofToken token = .ok node)
    (hrest : ofTokens ds = .ok nodes) : ofTokens (token :: ds) = .ok (node.toList ++ nodes) := by
  rw [ofTokens, h, hrest]
  rfl

/-- The tokens before and the tokens behind are read on their own. -/
theorem ofTokens_append {es : List Datum} {others : List Node} (h : ofTokens ds = .ok nodes)
    (hothers : ofTokens es = .ok others) : ofTokens (ds ++ es) = .ok (nodes ++ others) := by
  induction ds generalizing nodes with
  | nil =>
    rw [ofTokens] at h
    cases h
    exact hothers
  -- the first token and the rest must have been read, or nothing had come of the sequence
  | cons d ds ih =>
    rw [ofTokens] at h
    cases hd : ofToken d with
    | error e =>
      rw [hd] at h
      cases h
    | ok node =>
      cases hds : ofTokens ds with
      | error e =>
        rw [hd, hds] at h
        cases h
      | ok rest =>
        rw [hd, hds] at h
        cases h
        rw [List.cons_append, ofTokens_cons hd (ih hds), List.append_assoc]

/-! ## Types

One lemma for each reader. Types whose readers differ in the kind of node alone share one
(`ofToken_word`, `ofToken_holder`, `ofToken_mark`). -/

/-- Tokens of these types are read by their raw text alone. -/
theorem ofToken_word (type : TokenType) (kind : NodeKind) {t : Text} (htype : type? fs = some type)
    (hkind : (type, kind) ∈ [(.text, .text), (.codeSpan, .inlineCode), (.inlineHtml, .html)])
    (hraw : HasRaw fs t) : ofToken (.record fs) = .ok (some { kind, text := t }) := by
  rw [ofToken, htype, raw_of_hasRaw hraw]
  simp only [List.mem_cons, Prod.mk.injEq, List.not_mem_nil, or_false] at hkind
  rcases hkind with ⟨rfl, rfl⟩ | ⟨rfl, rfl⟩ | ⟨rfl, rfl⟩ <;> rfl

/-- Tokens of these types are read by their content alone. -/
theorem ofToken_holder (type : TokenType) (kind : NodeKind) (htype : type? fs = some type)
    (hkind : (type, kind) ∈ [(.blockQuote, .quote), (.strong, .bold), (.emphasis, .italic),
      (.strikethrough, .strikethrough)]) (hcontent : content fs = .ok nodes) :
    ofToken (.record fs) = .ok (some { kind, children := nodes }) := by
  rw [ofToken, htype]
  simp only [List.mem_cons, Prod.mk.injEq, List.not_mem_nil, or_false] at hkind
  rcases hkind with ⟨rfl, rfl⟩ | ⟨rfl, rfl⟩ | ⟨rfl, rfl⟩ | ⟨rfl, rfl⟩ <;>
    simp only [hcontent] <;> rfl

/-- Tokens of these types are read by nothing but their type. -/
theorem ofToken_mark (type : TokenType) (kind : NodeKind) (htype : type? fs = some type)
    (hkind : (type, kind) ∈ [(.thematicBreak, .horizontalRule), (.lineBreak, .lineBreak),
      (.softBreak, .softBreak)]) : ofToken (.record fs) = .ok (some { kind }) := by
  rw [ofToken, htype]
  simp only [List.mem_cons, Prod.mk.injEq, List.not_mem_nil, or_false] at hkind
  rcases hkind with ⟨rfl, rfl⟩ | ⟨rfl, rfl⟩ | ⟨rfl, rfl⟩ <;> rfl

/-- A blank line gives no node. -/
theorem ofToken_blankLine (htype : IsTyped "blank_line" fs) : ofToken (.record fs) = .ok none := by
  have htype : type? fs = some .blankLine := type?_of_isTyped htype
  rw [ofToken, htype]
  rfl

/-- The level stands in the attributes, or in a field of the token, and is one otherwise. -/
theorem ofToken_heading (htype : IsTyped "heading" fs) (hattrs : HasAttributes fs attrs)
    (hcontent : contentOrText fs = .ok nodes) :
    ofToken (.record fs)
      = .ok (some
          { kind := .heading
            level := (attributeOr attrs fs "level" "level" (.whole 1)).toInt
            children := nodes }) := by
  have htype : type? fs = some .heading := type?_of_isTyped htype
  rw [ofToken, htype]
  simp only [attributes_of_hasAttributes hattrs, hcontent]
  rfl

/-- A paragraph and the text of a tight item are read alike. -/
theorem ofToken_paragraph (htype : IsTyped "paragraph" fs ∨ IsTyped "block_text" fs)
    (hcontent : contentOrText fs = .ok nodes) :
    ofToken (.record fs) = .ok (some { kind := .paragraph, children := nodes }) := by
  have htype : type? fs = some .paragraph := by
    rcases htype with htype | htype <;> exact type?_of_isTyped htype
  rw [ofToken, htype]
  simp only [hcontent]
  rfl

/-- The language is what follows the fence, as it stands. -/
theorem ofToken_blockCode {t : Text} (htype : IsTyped "block_code" fs)
    (hattrs : HasAttributes fs attrs) (hraw : HasRaw fs t) :
    ofToken (.record fs)
      = .ok (some
          { kind := .codeBlock
            text := t
            language := (attributeOr attrs fs "info" "info" (.text [])).textIfPresent }) := by
  have htype : type? fs = some .blockCode := type?_of_isTyped htype
  rw [ofToken, htype, raw_of_hasRaw hraw]
  simp only [attributes_of_hasAttributes hattrs]
  rfl

/-- The address goes by two names, `url` in the attributes and `link` in the token. -/
theorem ofToken_link (htype : IsTyped "link" fs) (hattrs : HasAttributes fs attrs)
    (hcontent : contentOrText fs = .ok nodes) :
    ofToken (.record fs)
      = .ok (some
          { kind := .link
            url := (attributeOr attrs fs "url" "link" (.text [])).textIfPresent
            title := ((field? "title" attrs).getD (.text [])).textIfPresent
            children := nodes }) := by
  have htype : type? fs = some .link := type?_of_isTyped htype
  rw [ofToken, htype]
  simp only [attributes_of_hasAttributes hattrs, hcontent]
  rfl

/-- An image keeps no children: they go into its alternative text. -/
theorem ofToken_image {alt : Text} (htype : IsTyped "image" fs) (hattrs : HasAttributes fs attrs)
    (hwords : imageWords attrs fs = .ok alt) :
    ofToken (.record fs)
      = .ok (some
          { kind := .image
            url := (attributeOr attrs fs "url" "src" (.text [])).textIfPresent
            title := ((field? "title" attrs).getD (.text [])).textIfPresent
            alt }) := by
  have htype : type? fs = some .image := type?_of_isTyped htype
  rw [ofToken, htype]
  simp only [attributes_of_hasAttributes hattrs]
  show (imageWords attrs fs >>= _) = _
  rw [hwords]
  rfl

/-- The attributes tell whether a list is numbered and from which number. A number that counts as
false, like zero, is replaced. -/
theorem ofToken_list (htype : IsTyped "list" fs) (hattrs : HasAttributes fs attrs)
    (hcontent : content fs = .ok nodes) :
    ofToken (.record fs)
      = .ok (some
          { kind := if ((field? "ordered" attrs).getD (.flag false)).isTruthy then .orderedList
              else .unorderedList
            children := nodes
            start := if ((field? "start" attrs).getD (.whole 1)).isTruthy then
              ((field? "start" attrs).getD (.whole 1)).toInt else 1 }) := by
  have htype : type? fs = some .list := type?_of_isTyped htype
  rw [ofToken, htype]
  simp only [attributes_of_hasAttributes hattrs, hcontent]
  rfl

/-- An item without a box is no task. -/
theorem ofToken_listItem (htype : IsTyped "list_item" fs) (hbox : hasBox fs = .ok false)
    (hcontent : content fs = .ok nodes) :
    ofToken (.record fs) = .ok (some { kind := .listItem, children := nodes }) := by
  have htype : type? fs = some .listItem := type?_of_isTyped htype
  rw [ofToken, htype]
  simp only [hbox, hcontent]
  rfl

/-- A task is ticked if its attributes say so. -/
theorem ofToken_taskListItem (htype : IsTyped "task_list_item" fs) (hattrs : HasAttributes fs attrs)
    (hcontent : content fs = .ok nodes) :
    ofToken (.record fs)
      = .ok (some
          { kind := .taskListItem
            children := nodes
            checked := ((field? "checked" attrs).getD (.flag false)).isTruthy }) := by
  have htype : type? fs = some .taskListItem := type?_of_isTyped htype
  rw [ofToken, htype]
  simp only [taskItem, attributes_of_hasAttributes hattrs, hcontent]
  rfl

/-- An item that says whether it is ticked is a task as well. -/
theorem ofToken_listItem_of_checked (htype : IsTyped "list_item" fs)
    (hattrs : HasAttributes fs attrs) (hchecked : (field? "checked" attrs).isSome = true)
    (hcontent : content fs = .ok nodes) :
    ofToken (.record fs)
      = .ok (some
          { kind := .taskListItem
            children := nodes
            checked := ((field? "checked" attrs).getD (.flag false)).isTruthy }) := by
  have htype : type? fs = some .listItem := type?_of_isTyped htype
  have hbox : hasBox fs = .ok true := by rw [hasBox_of_hasAttributes hattrs, hchecked]
  rw [ofToken, htype]
  simp only [hbox, taskItem, attributes_of_hasAttributes hattrs, hcontent]
  rfl

/-- A table is the rows that are found in its head and its body. -/
theorem ofToken_table (htype : IsTyped "table" fs) (hrows : tableRows fs = .ok nodes) :
    ofToken (.record fs) = .ok (some { kind := .table, children := nodes }) := by
  have htype : type? fs = some .table := type?_of_isTyped htype
  rw [ofToken, htype]
  simp only [hrows]
  rfl

/-! ## Tables

The tokens below a table are its head and its body (`sections`). Below these are rows (`rows`), or
cells where a head is one row without saying so (`sectionRows`), and in a row there are cells
(`cells`). A cell in a head is a header unless it says otherwise. -/

theorem cells_nil (header : Bool) : cells header [] = .ok [] := by rw [cells]

theorem rows_nil (header : Bool) : rows header [] = .ok [] := by rw [rows]

theorem sections_nil : sections [] = .ok [] := by rw [sections]

/-- The alignment and the mark of a header cell come from the attributes of the cell. -/
theorem cells_cons {header : Bool} {others : List Node} (hattrs : HasAttributes fs attrs)
    (hcontent : content fs = .ok nodes) (hrest : cells header ds = .ok others) :
    cells header (.record fs :: ds)
      = .ok ({ kind := .tableCell
               children := nodes
               align := ((field? "align" attrs).getD .absent).textIfPresent
               header := ((field? "head" attrs).getD (.flag header)).isTruthy } :: others) := by
  rw [cells, hcontent, attributes_of_hasAttributes hattrs, hrest]
  rfl

theorem row_of_hasChildren {header : Bool} (h : HasChildren fs ds)
    (hcells : cells header ds = .ok nodes) :
    row header fs = .ok { kind := .tableRow, children := nodes } := by
  rw [row_eq, h]
  simp only [hcells]
  rfl

/-- The type of the first token below a section tells rows from cells. -/
theorem startsWithCell_of_isTyped {name : String} (h : IsTyped name fs) (ds : List Datum) :
    startsWithCell (.record fs :: ds) = .ok ((Text.ofString name).isLiteral "table_cell") := by
  show Except.ok (isText "table_cell" ((field? "type" fs).getD .absent)) = _
  rw [h]
  rfl

/-- The tokens below a head or a body decide whether they are one row. -/
theorem sectionRows_of_hasChildren {header : Bool} (h : HasChildren fs ds) :
    sectionRows header fs = (do
      if ← startsWithCell ds then
        return [{ kind := .tableRow, children := ← cells header ds }]
      else rows header ds) := by
  rw [sectionRows_eq, h]

/-- Rows of a head come before those of a body, in the order of the tokens. -/
theorem sections_cons {name : String} (h : IsTyped name fs) {rest : List Datum}
    {others : List Node} (hrows : name = "table_head" ∧ sectionRows true fs = .ok nodes ∨
      name = "table_body" ∧ sectionRows false fs = .ok nodes) (hrest : sections rest = .ok others) :
    sections (.record fs :: rest) = .ok (nodes ++ others) := by
  rw [sections, h, hrest]
  rcases hrows with ⟨rfl, hrows⟩ | ⟨rfl, hrows⟩
  · simp only [hrows]
    rfl
  · simp only [hrows]
    rfl

/-- A body alone is read as its rows. -/
theorem sections_body (h : IsTyped "table_body" fs) (hrows : sectionRows false fs = .ok nodes) :
    sections [.record fs] = .ok nodes := by
  rw [sections_cons h (Or.inr ⟨rfl, hrows⟩) sections_nil, List.append_nil]

theorem tableRows_of_hasChildren (h : HasChildren fs ds) : tableRows fs = sections ds := by
  rw [tableRows_eq, h]

end Node

end Wordsmith
