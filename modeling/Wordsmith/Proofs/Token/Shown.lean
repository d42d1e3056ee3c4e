import Wordsmith.Proofs.Token.Reading
import Wordsmith.Proofs.Tree.Texts

/-!
# The text of a token list

What a reader is shown of the tokens of a Markdown text, said on the tokens alone: raw texts in
order, a break as a space, the box of a task before its text. `BlocksShow` relates a list of block
tokens to that text. Such tokens can always be read, and the tree, the elements and the document part
show the same text, stripped of what may not occur in markup (`text_preserved`).

The relations are inductive, with a rule for each kind of token, and so are those between nodes and
texts (`Node.ShowInline` and its likes). The proof goes rule by rule from the one to the other:

* `exists_showInline`, `exists_showParagraphs`, `exists_showPart` — lines, paragraphs and lists.
* `exists_showCells`, `exists_showRows`, `exists_showTable` — tables.
* `exists_showBlock`, `exists_ofDocument` — blocks and the whole document.
-/

namespace Wordsmith

open Datum Token

namespace Token

/-! ## What tokens show

The tokens are those that a reader of Markdown gives: what stands in a quote are paragraphs, and the
paragraphs of an item come before its lists. -/

/-- Inline tokens and the text that they show. -/
inductive InlinesShow : List Datum → Text → Prop where
  | nil : InlinesShow [] []
  /-- A text or a piece of code shows its raw text. -/
  | raw {fs : List (Text × Datum)} {rest : List Datum} {t u : Text}
      (htype : IsTyped "text" fs ∨ IsTyped "codespan" fs) (hraw : HasRaw fs t)
      (hrest : InlinesShow rest u) : InlinesShow (.record fs :: rest) (t ++ u)
  /-- A break shows as a space. -/
  | space {fs : List (Text × Datum)} {rest : List Datum} {u : Text}
      (htype : IsTyped "linebreak" fs ∨ IsTyped "softbreak" fs) (hrest : InlinesShow rest u) :
      InlinesShow (.record fs :: rest) (" " ++ u)
  /-- Emphasis shows what is emphasised. -/
  | emphasis {fs : List (Text × Datum)} {inner rest : List Datum} {t u : Text}
      (htype : IsTyped "strong" fs ∨ IsTyped "emphasis" fs ∨ IsTyped "strikethrough" fs)
      (hchildren : HasChildren fs inner) (hinner : InlinesShow inner t)
      (hrest : InlinesShow rest u) : InlinesShow (.record fs :: rest) (t ++ u)
  /-- A link shows its words. -/
  | link {fs attrs : List (Text × Datum)} {inner rest : List Datum} {t u : Text}
      (htype : IsTyped "link" fs) (hattrs : HasAttributes fs attrs)
      (hurl : (attributeOr attrs fs "url" "link" (.text [])).isWordsOrAbsent = true)
      (hchildren : HasInline fs inner) (hinner : InlinesShow inner t) (hrest : InlinesShow rest u) :
      InlinesShow (.record fs :: rest) (t ++ u)

/-- Paragraphs, of loose or tight text, and the text that they show. -/
inductive ParagraphsShow : List Datum → Text → Prop where
  | nil : ParagraphsShow [] []
  | cons {fs : List (Text × Datum)} {inner rest : List Datum} {t u : Text}
      (htype : IsTyped "paragraph" fs ∨ IsTyped "block_text" fs) (hchildren : HasInline fs inner)
      (hinner : InlinesShow inner t) (hrest : ParagraphsShow rest u) :
      ParagraphsShow (.record fs :: rest) (t ++ u)

/-- The fields of a list item, and the text that it shows in front: the box of a task. -/
inductive BoxShows (fs : List (Text × Datum)) : Text → Prop where
  | plain {attrs : List (Text × Datum)} (htype : IsTyped "list_item" fs)
      (hattrs : HasAttributes fs attrs) (hchecked : field? "checked" attrs = none) : BoxShows fs []
  | ticked {attrs : List (Text × Datum)} (htype : IsTyped "list_item" fs)
      (hattrs : HasAttributes fs attrs) (hchecked : (field? "checked" attrs).isSome = true) :
      BoxShows fs (Node.checkbox ((field? "checked" attrs).getD (.flag false)).isTruthy)
  | task {attrs : List (Text × Datum)} (htype : IsTyped "task_list_item" fs)
      (hattrs : HasAttributes fs attrs) :
      BoxShows fs (Node.checkbox ((field? "checked" attrs).getD (.flag false)).isTruthy)

/-- What a list of tokens inside a list is made of. -/
inductive ListPart where
  /-- The items of a list. -/
  | items
  /-- The lists of an item. -/
  | lists

/-- Items of a list, or lists of an item, and the text that they show. An item shows its own
paragraphs and then the lists in it. -/
inductive ListShows : ListPart → List Datum → Text → Prop where
  | noItems : ListShows .items [] []
  | item {fs : List (Text × Datum)} {own lists rest : List Datum} {box t u v : Text}
      (hbox : BoxShows fs box) (hchildren : HasChildren fs (own ++ lists))
      (hown : ParagraphsShow own t) (hlists : ListShows .lists lists u)
      (hrest : ListShows .items rest v) :
      ListShows .items (.record fs :: rest) (box ++ t ++ u ++ v)
  | noLists : ListShows .lists [] []
  | list {fs attrs : List (Text × Datum)} {items rest : List Datum} {t u : Text}
      (htype : IsTyped "list" fs) (hattrs : HasAttributes fs attrs)
      (hchildren : HasChildren fs items) (hitems : ListShows .items items t)
      (hrest : ListShows .lists rest u) : ListShows .lists (.record fs :: rest) (t ++ u)

/-- Cells of a row and the text that they show. -/
inductive CellsShow : List Datum → Text → Prop where
  | nil : CellsShow [] []
  | cons {fs attrs : List (Text × Datum)} {inner rest : List Datum} {t u : Text}
      (htype : IsTyped "table_cell" fs) (hattrs : HasAttributes fs attrs)
      (hchildren : HasChildren fs inner) (hinner : InlinesShow inner t)
      (hrest : CellsShow rest u) : CellsShow (.record fs :: rest) (t ++ u)

/-- Rows of a table and the text that they show. -/
inductive RowsShow : List Datum → Text → Prop where
  | nil : RowsShow [] []
  | cons {fs : List (Text × Datum)} {cells rest : List Datum} {t u : Text}
      (htype : IsTyped "table_row" fs) (hchildren : HasChildren fs cells)
      (hcells : CellsShow cells t) (hrest : RowsShow rest u) :
      RowsShow (.record fs :: rest) (t ++ u)

/-- The body of a table, if it has one, and the text that it shows. -/
inductive BodyShows : List Datum → Text → Prop where
  | none : BodyShows [] []
  | body {fs : List (Text × Datum)} {rows : List Datum} {t : Text}
      (htype : IsTyped "table_body" fs) (hchildren : HasChildren fs rows)
      (hrows : RowsShow rows t) : BodyShows [.record fs] t

/-- A block token and the text that it shows. -/
inductive BlockShows (fs : List (Text × Datum)) : Text → Prop where
  | heading {attrs : List (Text × Datum)} {inner : List Datum} {t : Text}
      (htype : IsTyped "heading" fs) (hattrs : HasAttributes fs attrs)
      (hlevel : (attributeOr attrs fs "level" "level" (.whole 1)).isWhole = true)
      (hchildren : HasInline fs inner) (hinner : InlinesShow inner t) : BlockShows fs t
  | paragraph {inner : List Datum} {t : Text}
      (htype : IsTyped "paragraph" fs ∨ IsTyped "block_text" fs) (hchildren : HasInline fs inner)
      (hinner : InlinesShow inner t) : BlockShows fs t
  | code {attrs : List (Text × Datum)} {t : Text} (htype : IsTyped "block_code" fs)
      (hattrs : HasAttributes fs attrs) (hraw : HasRaw fs t) : BlockShows fs t
  | rule (htype : IsTyped "thematic_break" fs) : BlockShows fs []
  | blank (htype : IsTyped "blank_line" fs) : BlockShows fs []
  | quote {inner : List Datum} {t : Text} (htype : IsTyped "block_quote" fs)
      (hchildren : HasChildren fs inner) (hinner : ParagraphsShow inner t) : BlockShows fs t
  | list {attrs : List (Text × Datum)} {items : List Datum} {t : Text} (htype : IsTyped "list" fs)
      (hattrs : HasAttributes fs attrs) (hchildren : HasChildren fs items)
      (hitems : ListShows .items items t) : BlockShows fs t
  | table {head : List (Text × Datum)} {cells body : List Datum} {t u : Text}
      (htype : IsTyped "table" fs) (hchildren : HasChildren fs (.record head :: body))
      (hhead : IsTyped "table_head" head) (hcells : HasChildren head cells)
      (hcellsShow : CellsShow cells t) (hbody : BodyShows body u) : BlockShows fs (t ++ u)

/-- Block tokens and the text that they show. -/
inductive BlocksShow : List Datum → Text → Prop where
  | nil : BlocksShow [] []
  | cons {fs : List (Text × Datum)} {rest : List Datum} {t u : Text} (h : BlockShows fs t)
      (hrest : BlocksShow rest u) : BlocksShow (.record fs :: rest) (t ++ u)

end Token

namespace Node

variable {fs attrs : List (Text × Datum)} {ds : List Datum} {nodes : List Node}

/-! ## Inline tokens

A token in front of others is read by itself (`ofTokens_cons`), so each rule needs one equation for its
type. -/

/-- A text or a piece of code is a node with the raw text. -/
theorem ofToken_raw {t : Text} (htype : IsTyped "text" fs ∨ IsTyped "codespan" fs)
    (hraw : HasRaw fs t) :
    ofToken (.record fs) = .ok (some (ofText t)) ∨
      ofToken (.record fs) = .ok (some { kind := .inlineCode, text := t }) := by
  rcases htype with htype | htype
  · exact Or.inl (ofToken_word .text .text (type?_of_isTyped htype) (by decide) hraw)
  · exact Or.inr (ofToken_word .codeSpan .inlineCode (type?_of_isTyped htype) (by decide) hraw)

/-- A break is a node of its own. -/
theorem ofToken_space (htype : IsTyped "linebreak" fs ∨ IsTyped "softbreak" fs) :
    ∃ kind : NodeKind, kind.isBreak = true ∧ ofToken (.record fs) = .ok (some { kind }) := by
  rcases htype with htype | htype
  · exact ⟨.lineBreak, rfl, ofToken_mark .lineBreak .lineBreak (type?_of_isTyped htype) (by decide)⟩
  · exact ⟨.softBreak, rfl, ofToken_mark .softBreak .softBreak (type?_of_isTyped htype) (by decide)⟩

/-- Emphasis is a wrapper around what is read below it. -/
theorem ofToken_emphasis
    (htype : IsTyped "strong" fs ∨ IsTyped "emphasis" fs ∨ IsTyped "strikethrough" fs)
    (hcontent : content fs = .ok nodes) :
    ∃ (kind : NodeKind) (mark : Run → Run), marking? kind [] = some mark ∧
      ofToken (.record fs) = .ok (some { kind, children := nodes }) := by
  rcases htype with htype | htype | htype
  · exact ⟨.bold, _, rfl,
      ofToken_holder .strong .bold (type?_of_isTyped htype) (by decide) hcontent⟩
  · exact ⟨.italic, _, rfl,
      ofToken_holder .emphasis .italic (type?_of_isTyped htype) (by decide) hcontent⟩
  · exact ⟨.strikethrough, _, rfl,
      ofToken_holder .strikethrough .strikethrough (type?_of_isTyped htype) (by decide) hcontent⟩

/-- Inline tokens can be read, and the nodes show the same text. The induction is on what is shown:
each rule adds one token in front. -/
theorem exists_showInline {t : Text} (h : InlinesShow ds t) :
    ∃ nodes, ofTokens ds = .ok nodes ∧ ShowInline nodes t := by
  induction h with
  | nil => exact ⟨[], ofTokens_nil, .nil⟩
  | raw htype hraw _ ih =>
    obtain ⟨rest, hrest, hshow⟩ := ih
    -- a text or a code span
    rcases ofToken_raw htype hraw with htoken | htoken
    · exact ⟨_, ofTokens_cons htoken hrest, .text _ hshow⟩
    · exact ⟨_, ofTokens_cons htoken hrest, .code _ hshow⟩
  | space htype _ ih =>
    obtain ⟨rest, hrest, hshow⟩ := ih
    -- either kind of line break shows a blank
    obtain ⟨kind, hkind, htoken⟩ := ofToken_space htype
    exact ⟨_, ofTokens_cons htoken hrest, .lineBreak hkind hshow⟩
  | emphasis htype hchildren _ _ ihInner ih =>
    obtain ⟨rest, hrest, hshow⟩ := ih
    obtain ⟨inner, hinner, hshowInner⟩ := ihInner
    -- emphasis of any kind shows what is in it
    obtain ⟨kind, mark, hmark, htoken⟩ :=
      ofToken_emphasis htype (content_of_hasChildren hchildren hinner)
    exact ⟨_, ofTokens_cons htoken hrest, .wrapper hmark hshowInner hshow⟩
  | link htype hattrs _ hchildren _ _ ihInner ih =>
    obtain ⟨rest, hrest, hshow⟩ := ih
    obtain ⟨inner, hinner, hshowInner⟩ := ihInner
    have htoken := ofToken_link htype hattrs (contentOrText_of_hasInline hchildren hinner)
    exact ⟨_, ofTokens_cons htoken hrest, .wrapper rfl hshowInner hshow⟩

/-! ## Paragraphs and lists

Items hold lists and lists hold items, so both are shown by one relation, with the part in question as
an index (`ListPart`). -/

/-- Paragraphs can be read, and the nodes show the same text. -/
theorem exists_showParagraphs {t : Text} (h : ParagraphsShow ds t) :
    ∃ nodes, ofTokens ds = .ok nodes ∧ ShowParagraphs nodes t := by
  induction h with
  | nil => exact ⟨[], ofTokens_nil, .nil⟩
  | cons htype hchildren hinner _ ih =>
    obtain ⟨rest, hrest, hshow⟩ := ih
    obtain ⟨inner, hinner, hshowInner⟩ := exists_showInline hinner
    have htoken := ofToken_paragraph htype (contentOrText_of_hasInline hchildren hinner)
    exact ⟨_, ofTokens_cons htoken hrest, .cons hshowInner hshow⟩

/-- A list item becomes a node that shows the same box. -/
theorem ofToken_item {box : Text} (hbox : BoxShows fs box) (hcontent : content fs = .ok nodes) :
    ∃ (kind : NodeKind) (checked : Bool), kind.isItem = true ∧
      Run.allText (boxRuns kind checked) = box ∧
      ofToken (.record fs) = .ok (some { kind, checked, children := nodes }) := by
  cases hbox with
  | plain htype hattrs hchecked =>
    exact ⟨.listItem, false, rfl, rfl,
      ofToken_listItem htype (by rw [hasBox_of_hasAttributes hattrs, hchecked]; rfl) hcontent⟩
  | ticked htype hattrs hchecked =>
    exact ⟨.taskListItem, _, rfl, List.append_nil _,
      ofToken_listItem_of_checked htype hattrs hchecked hcontent⟩
  | task htype hattrs =>
    exact ⟨.taskListItem, _, rfl, List.append_nil _, ofToken_taskListItem htype hattrs hcontent⟩

/-- A list becomes one of the two kinds of lists. -/
theorem exists_ofToken_list (htype : IsTyped "list" fs) (hattrs : HasAttributes fs attrs)
    (hcontent : content fs = .ok nodes) :
    ∃ (kind : NodeKind) (start : Int), kind.isList = true ∧
      ofToken (.record fs) = .ok (some { kind, start, children := nodes }) := by
  have hkind : ∀ b : Bool,
      (if b then NodeKind.orderedList else NodeKind.unorderedList).isList = true := by
    decide
  exact ⟨_, _, hkind _, ofToken_list htype hattrs hcontent⟩

/-- What the nodes of a part of a list show. -/
def ShowPart : ListPart → List Node → Text → Prop
  | .items => ShowItems
  | .lists => ShowLists

/-- Lists can be read to any depth. The induction goes through items and lists alike, since each
holds the other. -/
theorem exists_showPart {part : ListPart} {t : Text} (h : ListShows part ds t) :
    ∃ nodes, ofTokens ds = .ok nodes ∧ ShowPart part nodes t := by
  induction h with
  | noItems => exact ⟨[], ofTokens_nil, ShowItems.nil⟩
  | noLists => exact ⟨[], ofTokens_nil, ShowLists.nil⟩
  | item hbox hchildren hown _ _ ihLists ih =>
    obtain ⟨rest, hrest, hshow⟩ := ih
    obtain ⟨lists, hlists, hshowLists⟩ := ihLists
    -- an item shows its own paragraphs first and the lists in it after them
    obtain ⟨own, hown, hshowOwn⟩ := exists_showParagraphs hown
    have hcontent := content_of_hasChildren hchildren (ofTokens_append hown hlists)
    obtain ⟨kind, checked, hkind, hbox, htoken⟩ := ofToken_item hbox hcontent
    subst hbox
    exact ⟨_, ofTokens_cons htoken hrest, ShowItems.cons hkind hshowOwn hshowLists hshow⟩
  | list htype hattrs hchildren _ _ ihItems ih =>
    obtain ⟨rest, hrest, hshow⟩ := ih
    obtain ⟨items, hitems, hshowItems⟩ := ihItems
    obtain ⟨kind, start, hkind, htoken⟩ :=
      exists_ofToken_list htype hattrs (content_of_hasChildren hchildren hitems)
    exact ⟨_, ofTokens_cons htoken hrest, ShowLists.cons hkind hshowItems hshow⟩

/-! ## Tables

The functions for cells and rows are told whether they are in the head, which makes no difference to
what is shown. -/

/-- Cells can be read, and the nodes show the same text. -/
theorem exists_showCells {t : Text} (header : Bool) (h : CellsShow ds t) :
    ∃ nodes, cells header ds = .ok nodes ∧ ShowCells nodes t := by
  induction h with
  | nil => exact ⟨[], cells_nil header, .nil⟩
  | cons _ hattrs hchildren hinner _ ih =>
    obtain ⟨others, hothers, hshow⟩ := ih
    obtain ⟨inner, hinner, hshowInner⟩ := exists_showInline hinner
    have hcell := cells_cons hattrs (content_of_hasChildren hchildren hinner) hothers
    exact ⟨_, hcell, .cons rfl hshowInner hshow⟩

/-- So can rows. -/
theorem exists_showRows {t : Text} (header : Bool) (h : RowsShow ds t) :
    ∃ nodes, rows header ds = .ok nodes ∧ ShowRows nodes t := by
  induction h with
  | nil => exact ⟨[], rows_nil header, .nil⟩
  | cons _ hchildren hcells _ ih =>
    obtain ⟨others, hothers, hshow⟩ := ih
    obtain ⟨inner, hinner, hshowInner⟩ := exists_showCells header hcells
    refine ⟨{ kind := .tableRow, children := inner } :: others, ?_, .cons rfl hshowInner hshow⟩
    rw [rows, row_of_hasChildren hchildren hinner, hothers]
    rfl

/-- The cells of a head are one row; without any there is none. -/
theorem exists_showHead {t : Text} (h : HasChildren fs ds) (hcells : CellsShow ds t) :
    ∃ nodes, sectionRows true fs = .ok nodes ∧ ShowRows nodes t := by
  rw [sectionRows_of_hasChildren h]
  obtain ⟨nodes, hnodes, hshow⟩ := exists_showCells true hcells
  -- without a cell the tokens are read as rows, of which there are none
  cases hcells with
  | nil => exact ⟨[], rows_nil true, .nil⟩
  | @cons cell attrs inner rest t u htype _ _ _ _ =>
    have hstart : startsWithCell (.record cell :: rest) = .ok true :=
      startsWithCell_of_isTyped htype rest
    refine ⟨[{ kind := .tableRow, children := nodes }], ?_, ?_⟩
    · rw [hstart, hnodes]
      rfl
    · rw [← List.append_nil (t ++ u)]
      exact .cons rfl hshow .nil

/-- A body that does not start with a cell is read row by row. -/
theorem exists_showBody {t : Text} (h : HasChildren fs ds) (hrows : RowsShow ds t) :
    ∃ nodes, sectionRows false fs = .ok nodes ∧ ShowRows nodes t := by
  have hstart : startsWithCell ds = .ok false := by
    cases hrows with
    | nil => rfl
    | cons htype _ _ _ => exact startsWithCell_of_isTyped htype _
  rw [sectionRows_of_hasChildren h, hstart]
  exact exists_showRows false hrows

/-- The rows of a table are those of its head and of its body. -/
theorem exists_showTable {head : List (Text × Datum)} {headCells body : List Datum} {t u : Text}
    (hchildren : HasChildren fs (.record head :: body)) (hhead : IsTyped "table_head" head)
    (hcells : HasChildren head headCells) (hcellsShow : CellsShow headCells t)
    (hbody : BodyShows body u) :
    ∃ nodes, tableRows fs = .ok nodes ∧ ShowRows nodes (t ++ u) := by
  -- the row of the head, and those of the body if there is one
  obtain ⟨first, hfirst, hshowFirst⟩ := exists_showHead hcells hcellsShow
  obtain ⟨others, hothers, hshowOthers⟩ : ∃ nodes, sections body = .ok nodes ∧
      ShowRows nodes u := by
    cases hbody with
    | none => exact ⟨[], sections_nil, .nil⟩
    | body htype hrowsChildren hrows =>
      obtain ⟨nodes, hnodes, hshow⟩ := exists_showBody hrowsChildren hrows
      exact ⟨nodes, sections_body htype hnodes, hshow⟩
  refine ⟨first ++ others, ?_, hshowFirst.append hshowOthers⟩
  rw [tableRows_of_hasChildren hchildren]
  exact sections_cons hhead (Or.inl ⟨rfl, hfirst⟩) hothers

/-! ## Blocks and documents

The trees show what their tokens show, and by `Node.ShowBlocks.allText_elements` the elements of a tree
show what the tree shows. -/

/-- A block token becomes a node that shows the same text; a blank line shows nothing and becomes
none. -/
theorem exists_showBlock {t : Text} (h : BlockShows fs t) :
    (∃ n, ofToken (.record fs) = .ok (some n) ∧ ShowBlock n t) ∨
      ofToken (.record fs) = .ok none ∧ t = [] := by
  cases h with
  -- each kind of block: what is below it becomes nodes that show its text, and they stand in its node
  | heading htype hattrs _ hchildren hinner =>
    obtain ⟨nodes, hnodes, hshow⟩ := exists_showInline hinner
    have htoken := ofToken_heading htype hattrs (contentOrText_of_hasInline hchildren hnodes)
    exact Or.inl ⟨_, htoken, .heading _ hshow⟩
  | paragraph htype hchildren hinner =>
    obtain ⟨nodes, hnodes, hshow⟩ := exists_showInline hinner
    exact Or.inl ⟨_, ofToken_paragraph htype (contentOrText_of_hasInline hchildren hnodes),
      .paragraph hshow⟩
  | code htype hattrs hraw =>
    exact Or.inl ⟨_, ofToken_blockCode htype hattrs hraw, .codeBlock _ _⟩
  | rule htype =>
    have htoken := ofToken_mark .thematicBreak .horizontalRule (type?_of_isTyped htype) (by decide)
    exact Or.inl ⟨_, htoken, .horizontalRule⟩
  -- a blank line is the one block without a node, and shows nothing
  | blank htype => exact Or.inr ⟨ofToken_blankLine htype, rfl⟩
  | quote htype hchildren hinner =>
    obtain ⟨nodes, hnodes, hshow⟩ := exists_showParagraphs hinner
    have htoken := ofToken_holder .blockQuote .quote (type?_of_isTyped htype) (by decide)
      (content_of_hasChildren hchildren hnodes)
    exact Or.inl ⟨_, htoken, .quote hshow⟩
  | list htype hattrs hchildren hitems =>
    obtain ⟨nodes, hnodes, hshow⟩ := exists_showPart hitems
    obtain ⟨kind, start, hkind, htoken⟩ :=
      exists_ofToken_list htype hattrs (content_of_hasChildren hchildren hnodes)
    exact Or.inl ⟨_, htoken, .list hkind hshow⟩
  | table htype hchildren hhead hcells hcellsShow hbody =>
    obtain ⟨nodes, hnodes, hshow⟩ := exists_showTable hchildren hhead hcells hcellsShow hbody
    exact Or.inl ⟨_, ofToken_table htype hnodes, .table hshow⟩

/-- Blocks can be read, and the nodes show the same text. -/
theorem exists_showBlocks {t : Text} (h : BlocksShow ds t) :
    ∃ nodes, ofTokens ds = .ok nodes ∧ ShowBlocks nodes t := by
  induction h with
  | nil => exact ⟨[], ofTokens_nil, .nil⟩
  | cons h _ ih =>
    obtain ⟨rest, hrest, hshow⟩ := ih
    -- a blank line adds no node and no text
    rcases exists_showBlock h with ⟨n, htoken, hblock⟩ | ⟨htoken, rfl⟩
    · exact ⟨_, ofTokens_cons htoken hrest, .cons hblock hshow⟩
    · exact ⟨_, ofTokens_cons htoken hrest, hshow⟩

/-- A document that is read shows the text of its tokens. -/
theorem exists_ofDocument {t : Text} (h : BlocksShow ds t) :
    ∃ tree, ofDocument (.list ds) = .ok tree ∧ Element.allText tree.elements = t := by
  obtain ⟨nodes, hnodes, hshow⟩ := exists_showBlocks h
  refine ⟨{ kind := .document, children := nodes }, ?_, hshow.allText_elements⟩
  unfold ofDocument
  -- no tokens at all count as no answer, which is an empty document too
  cases ds with
  | nil =>
    rw [ofTokens] at hnodes
    cases hnodes
    rfl
  | cons d ds =>
    show (ofTokens (d :: ds) >>= fun children => pure ({ kind := .document, children } : Node)) = _
    rw [hnodes]
    rfl

end Node

/-! ## From tokens to the document part -/

/-- No text is lost, repeated or reordered on the way from the tokens to the document part: unless
link targets are shown as text, the texts of the part are what the tokens show, stripped of the code
points that may not occur in markup. -/
theorem text_preserved (s : Style) (hmode : s.linkMode ≠ .inlineUrl)
    (hcolor : ∀ c ∈ s.linkColor, c ≠ '<' ∧ c ≠ '&' ∧ c ≠ '"') {ds : List Datum} {t : Text}
    (h : BlocksShow ds t) :
    ∃ tree root, Node.ofDocument (.list ds) = .ok tree ∧
      Xml.read? (s.partText tree.elements .document) = some root ∧
      (root.tagged "w:t").flatMap Xml.text = t.strip := by
  obtain ⟨tree, htree, htext⟩ := Node.exists_ofDocument h
  obtain ⟨root, hroot, hfind⟩ := s.exists_read?_document tree.elements hcolor
  refine ⟨tree, root, htree, hroot, ?_⟩
  rw [hfind, ← htext]
  exact shownText_documentMarkup _ hmode _ _ _

/-- A token of this type with these tokens below it. -/
def Token.above (type : Text) (ds : List Datum) : Datum :=
  .record [("type", .text type), ("children", .list ds)]

/-- A task with a list in it. -/
def taskTokens : List Datum :=
  [above "task_list_item" [above "block_text" [above "strong" [word "d"]],
    above "list" [above "list_item" [above "paragraph" [word "e"]]]]]

/-- A heading with a break and a link, a list, and a table. -/
def sampleTokens : List Datum :=
  [above "heading" [word "a<b", .record [("type", .text "softbreak")], above "link" [word "c"]],
    above "list" taskTokens, above "table" [above "table_head" [above "table_cell" [word "f"]]]]

/-- A word in front of other tokens. -/
theorem inlinesShow_word (t : Text) {ds : List Datum} {u : Text} (h : InlinesShow ds u) :
    InlinesShow (word t :: ds) (t ++ u) :=
  .raw (Or.inl rfl) rfl h

/-- The task shows its box, its words and those of the list in it. -/
theorem listShows_taskTokens : ListShows .items taskTokens "☐ de" := by
  have hown : ParagraphsShow [above "block_text" [above "strong" [word "d"]]] _ :=
    .cons (Or.inr rfl) ⟨rfl, nofun⟩ (.emphasis (Or.inl rfl) rfl (inlinesShow_word "d" .nil) .nil)
      .nil
  have hinner : ParagraphsShow ([above "paragraph" [word "e"]] ++ []) _ :=
    .cons (Or.inl rfl) ⟨rfl, nofun⟩ (inlinesShow_word "e" .nil) .nil
  have hitem : ListShows .items [above "list_item" ([above "paragraph" [word "e"]] ++ [])] _ :=
    .item (.plain rfl rfl rfl) rfl hinner .noLists .noItems
  have hlists : ListShows .lists [above "list" [above "list_item" [above "paragraph" [word "e"]]]]
      _ :=
    .list rfl rfl rfl hitem .noLists
  have htask : ListShows .items [above "task_list_item"
      ([above "block_text" [above "strong" [word "d"]]] ++
        [above "list" [above "list_item" [above "paragraph" [word "e"]]]])] _ :=
    .item (.task rfl rfl) rfl hown hlists .noItems
  exact htask

/-- The break shows as a space, and the link, the task and the cell show their words. -/
theorem blocksShow_sampleTokens : BlocksShow sampleTokens "a<b c☐ def" := by
  have hheading : InlinesShow
      [word "a<b", .record [("type", .text "softbreak")], above "link" [word "c"]] _ :=
    inlinesShow_word "a<b" (.space (Or.inr rfl)
      (.link rfl rfl rfl ⟨rfl, nofun⟩ (inlinesShow_word "c" .nil) .nil))
  have hcells : CellsShow [above "table_cell" [word "f"]] _ :=
    .cons rfl rfl rfl (inlinesShow_word "f" .nil) .nil
  have hblocks : BlocksShow sampleTokens _ :=
    .cons (.heading rfl rfl rfl ⟨rfl, nofun⟩ hheading)
      (.cons (.list rfl rfl rfl listShows_taskTokens)
        (.cons (.table rfl rfl rfl rfl hcells .none) .nil))
  exact hblocks

/-- The document part shows the same text. -/
theorem text_preserved_sampleTokens :
    ∃ tree root, Node.ofDocument (.list sampleTokens) = .ok tree ∧
      Xml.read? (({ linkMode := .hyperlink } : Style).partText tree.elements .document)
        = some root ∧
      (root.tagged "w:t").flatMap Xml.text = Text.ofString "a<b c☐ def" :=
  text_preserved { linkMode := .hyperlink } (by decide) (by decide) blocksShow_sampleTokens
end Wordsmith
