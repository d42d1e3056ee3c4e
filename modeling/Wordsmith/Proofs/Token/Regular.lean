import Wordsmith.Proofs.Text.Literal
import Wordsmith.Proofs.Token.Content
import Wordsmith.Proofs.Tree.Regular

/-!
# Trees from tokens are regular

Tokens may be nested in any way, also in ways that no Markdown text gives rise to: cells outside
tables, rows in lines, content that is no list. If they are read at all, the tree is regular
(`Node.isRegular_ofDocument`): what stands in a wrong place is read as a text or not at all, and
everything that stands in a table is read as a row or a cell.

* `Node.Yields P` — whatever a reader returns satisfies `P`; errors are no matter.
* `Node.AreRegular` — nodes that may stand in a place and are regular at every depth.
* `ContentRegular.token` — a token is read as a regular node if what is below it is, type by type.
* `yieldsRegular` — every list of tokens, by induction on the tokens below the tokens.
-/

namespace Wordsmith

open Datum Token

namespace Node

/-! ## Results

A reader is a sequence of actions, some of which only check or look up. `Yields.bind` follows the ones
whose results count, and `Yields.bind_any` passes the others over. -/

/-- Whatever is returned satisfies `P`. -/
def Yields {α : Type} (P : α → Prop) (x : Except ShapeError α) : Prop := ∀ a, x = .ok a → P a

namespace Yields

variable {α β : Type} {P : α → Prop} {Q : β → Prop} {x : Except ShapeError α}
  {f : α → Except ShapeError β}

/-- What is returned satisfies `P` if the value does. -/
theorem pure {a : α} (h : P a) : Yields P (Pure.pure a) := by
  intro b hb
  cases hb
  exact h

/-- Nothing is returned. -/
theorem error (e : ShapeError) : Yields P (.error e) := nofun

/-- What the first step yields is handed to the second. -/
theorem bind (hx : Yields P x) (hf : ∀ a, P a → Yields Q (f a)) : Yields Q (x >>= f) := by
  intro b hb
  cases x with
  | error e => cases hb
  | ok a => exact hf a (hx a rfl) b hb

/-- Nothing needs to be known of a result that is only looked at. -/
theorem bind_any (hf : ∀ a, Yields Q (f a)) : Yields Q (x >>= f) :=
  bind (P := fun _ => True) (fun _ _ => trivial) fun a _ => hf a

end Yields

/-! ## Nodes

Where a node may stand depends on the kind of its parent (`NodeKind.mayHold`): rows in tables, cells in
rows, and everything else in open nodes, which all hold the same. So what is read for a document may
stand in any open node. -/

/-- The nodes are regular, and may stand directly below a node of this kind. -/
def AreRegular (parent : NodeKind) (ns : List Node) : Prop :=
  ∀ n ∈ ns, parent.mayHold n.kind = true ∧ n.Throughout IsRegular

namespace AreRegular

variable {parent : NodeKind} {n : Node} {ns ms : List Node}

/-- No nodes. -/
theorem nil : AreRegular parent [] := List.forall_mem_nil _

/-- A node in front. -/
theorem cons (hplace : parent.mayHold n.kind = true) (hn : n.Throughout IsRegular)
    (h : AreRegular parent ns) : AreRegular parent (n :: ns) :=
  List.forall_mem_cons.mpr ⟨⟨hplace, hn⟩, h⟩

/-- Nodes behind others. -/
theorem append (h : AreRegular parent ns) (h' : AreRegular parent ms) :
    AreRegular parent (ns ++ ms) :=
  List.forall_mem_append.mpr ⟨h, h'⟩

/-- A node without a text over regular nodes is regular. -/
theorem throughout (h : AreRegular n.kind n.children) (htext : n.text = [])
    (hchecked : n.checked = false ∨ n.kind = .taskListItem)
    (hheader : n.header = false ∨ n.kind = .tableCell) : n.Throughout IsRegular :=
  .mk ⟨fun c hc => (h c hc).1, fun _ => htext, fun hc => hchecked.resolve_left (by simp [hc]),
    fun hh => hheader.resolve_left (by simp [hh])⟩ fun c hc => (h c hc).2

/-- Nodes that may stand in a document may stand in any open node. -/
theorem below (h : AreRegular .document ns) (hopen : parent.isOpen = true) :
    AreRegular parent ns :=
  fun n hn => ⟨(NodeKind.mayHold_of_isOpen hopen n.kind).trans (h n hn).1, (h n hn).2⟩

/-- An open node over such nodes may stand in a document itself. -/
theorem holder (h : AreRegular .document n.children)
    (hplace : NodeKind.document.mayHold n.kind = true) (hopen : n.kind.isOpen = true)
    (htext : n.text = []) (hchecked : n.checked = false ∨ n.kind = .taskListItem)
    (hheader : n.header = false) : AreRegular .document (some n).toList :=
  cons hplace ((h.below hopen).throughout htext hchecked (Or.inl hheader)) nil

/-- A leaf may stand in a document. -/
theorem leaf (hplace : NodeKind.document.mayHold n.kind = true) (hchildren : n.children = [])
    (htext : n.kind.hasText = true ∨ n.text = []) (hchecked : n.checked = false)
    (hheader : n.header = false) : AreRegular .document (some n).toList := by
  have hnone : ∀ c, c ∉ n.children := fun c => hchildren ▸ List.not_mem_nil
  -- without children there is nothing below to be asked
  have hregular : n.IsRegular :=
    ⟨fun c hc => absurd hc (hnone c), fun hnot => htext.resolve_left (by simp [hnot]),
      by simp [hchecked], by simp [hheader]⟩
  exact cons hplace (.mk hregular fun c hc => absurd hc (hnone c)) nil

/-- A text is a leaf. -/
theorem text (t : Text) : AreRegular .document (some (ofText t)).toList :=
  leaf rfl rfl (Or.inl rfl) rfl rfl

/-- A row over cells is regular wherever it stands. -/
theorem row (h : AreRegular .tableRow ns) :
    ({ kind := .tableRow, children := ns } : Node).Throughout IsRegular :=
  h.throughout rfl (Or.inl rfl) (Or.inl rfl)

end AreRegular

/-! ## What is below a token

The content of a token stands in one of its fields. The hypothesis is about all lists in its fields
(`ContentRegular`), since inline content may come from the field `text`. -/

/-- Whatever a list of tokens is the content of, the nodes that are read of it are regular. -/
structure YieldsRegular (ds : List Datum) : Prop where
  tokens : Yields (AreRegular .document) (ofTokens ds)
  sections : Yields (AreRegular .table) (sections ds)
  rows : ∀ header, Yields (AreRegular .table) (rows header ds)
  cells : ∀ header, Yields (AreRegular .tableRow) (cells header ds)

/-- The lists in the fields of a token yield regular nodes. -/
def ContentRegular (fs : List (Text × Datum)) : Prop :=
  ∀ name cs, field? name fs = some (.list cs) → YieldsRegular cs

namespace ContentRegular

variable {fs : List (Text × Datum)}

/-- Content is a text, a list of tokens, or nothing. -/
theorem ofContent (h : ContentRegular fs) {name : String} {d : Datum}
    (hd : field? name fs = some d) : Yields (AreRegular .document) (ofContent d) := by
  rw [ofContent_eq]
  split
  · rename_i t
    split_ifs
    · exact .pure .nil
    · exact .pure (.text t)
  · rename_i cs
    exact (h name cs hd).tokens
  · exact .pure .nil

/-- The children of a token. -/
theorem content (h : ContentRegular fs) : Yields (AreRegular .document) (content fs) := by
  rw [content_eq]
  split
  · rename_i d hd
    exact h.ofContent hd
  · exact .pure .nil

/-- The text of a token, which may be tokens, too. -/
theorem textContent (h : ContentRegular fs) : Yields (AreRegular .document) (textContent fs) := by
  rw [textContent_eq]
  split
  · rename_i d hd
    exact h.ofContent hd
  · exact .pure .nil

/-- One of the two. -/
theorem contentOrText (h : ContentRegular fs) :
    Yields (AreRegular .document) (contentOrText fs) := by
  rw [Node.contentOrText]
  split
  · exact h.content
  · exact h.textContent

/-- A task holds its content and is the only node that is ticked. -/
theorem taskItem (h : ContentRegular fs) :
    Yields (fun node => AreRegular .document node.toList) (taskItem fs) := by
  rw [Node.taskItem]
  exact h.content.bind fun ns hns => .bind_any fun attrs =>
    .pure (hns.holder rfl rfl rfl (Or.inr rfl) rfl)

/-- A row is read as a row. -/
theorem row (h : ContentRegular fs) (header : Bool) :
    Yields (fun n => n.kind = .tableRow ∧ n.Throughout IsRegular) (row header fs) := by
  rw [row_eq]
  split
  · exact .pure ⟨rfl, AreRegular.nil.row⟩
  · rename_i cs hcs
    exact ((h _ cs hcs).cells header).bind fun ns hns => .pure ⟨rfl, hns.row⟩
  · exact .bind_any fun _ => .pure ⟨rfl, AreRegular.nil.row⟩

/-- Everything in a head or a body is read as rows. -/
theorem sectionRows (h : ContentRegular fs) (header : Bool) :
    Yields (AreRegular .table) (sectionRows header fs) := by
  rw [sectionRows_eq]
  split
  · exact .pure .nil
  · rename_i cs hcs
    refine .bind_any fun isCell => ?_
    cases isCell with
    | true => exact ((h _ cs hcs).cells header).bind fun ns hns => .pure (.cons rfl hns.row .nil)
    | false => exact (h _ cs hcs).rows header
  · split
    · exact .bind_any fun _ => .pure .nil
    · exact .pure .nil

/-- And so is everything in a table. -/
theorem tableRows (h : ContentRegular fs) : Yields (AreRegular .table) (tableRows fs) := by
  rw [tableRows_eq]
  split
  · exact .pure .nil
  · rename_i cs hcs
    exact (h _ cs hcs).sections
  · exact .bind_any fun _ => .pure .nil

/-- A token is read as a regular node if the lists in its fields are, whatever its type. -/
theorem token (h : ContentRegular fs) :
    Yields (fun node => AreRegular .document node.toList) (ofToken (.record fs)) := by
  rw [ofToken]
  cases htype : type? fs with
  | none =>
    -- a token of unknown type is a text or nothing
    dsimp only
    split
    · rename_i t _
      split
      · exact .pure .nil
      · exact .pure (.text t)
    · exact .pure .nil
  | some type =>
    cases type with
    | text => exact .pure (.text (raw fs))
    | codeSpan | inlineHtml | blockHtml => exact .pure (.leaf rfl rfl (Or.inl rfl) rfl rfl)
    | thematicBreak | lineBreak | softBreak => exact .pure (.leaf rfl rfl (Or.inr rfl) rfl rfl)
    | blankLine => exact .pure .nil
    | blockCode => exact .bind_any fun attrs => .pure (.leaf rfl rfl (Or.inl rfl) rfl rfl)
    | image =>
      exact .bind_any fun attrs => .bind_any fun alt =>
        .pure (.leaf rfl rfl (Or.inr rfl) rfl rfl)
    | blockQuote | strong | emphasis | strikethrough =>
      exact h.content.bind fun ns hns => .pure (hns.holder rfl rfl rfl (Or.inl rfl) rfl)
    | paragraph => exact h.contentOrText.bind fun ns hns => .pure (hns.holder rfl rfl rfl (Or.inl rfl) rfl)
    | heading | link =>
      exact .bind_any fun attrs => h.contentOrText.bind fun ns hns =>
        .pure (hns.holder rfl rfl rfl (Or.inl rfl) rfl)
    -- numbered or not, a list holds the same
    | list =>
      refine .bind_any fun attrs => h.content.bind fun ns hns => .pure ?_
      cases ((field? "ordered" attrs).getD (.flag false)).isTruthy with
      | true => exact hns.holder rfl rfl rfl (Or.inl rfl) rfl
      | false => exact hns.holder rfl rfl rfl (Or.inl rfl) rfl
    | taskListItem => exact h.taskItem
    | listItem =>
      refine .bind_any fun box => ?_
      cases box with
      | true => exact h.taskItem
      | false => exact h.content.bind fun ns hns => .pure (hns.holder rfl rfl rfl (Or.inl rfl) rfl)
    | table =>
      exact h.tableRows.bind fun ns hns =>
        .pure (.cons rfl (hns.throughout rfl (Or.inl rfl) (Or.inl rfl)) .nil)

end ContentRegular

/-! ## Sequences of tokens

A list of tokens is read in four ways, and in each of them the first token yields a node for the place,
or an error. -/

/-- What is no record is no token, so no nodes are read. -/
theorem yieldsRegular_cons_of_ne {d : Datum} {ds : List Datum} (h : ∀ fs, d ≠ .record fs) :
    YieldsRegular (d :: ds) := by
  refine ⟨?_, ?_, fun header => ?_, fun header => ?_⟩
  · rw [ofTokens_cons_of_ne h]
    exact .error _
  · rw [sections_cons_of_ne h]
    exact .error _
  · rw [rows_cons_of_ne h]
    exact .error _
  · rw [cells_cons_of_ne h]
    exact .error _

/-- A token in front of a list, whatever the list is read as. -/
theorem yieldsRegular_cons {fs : List (Text × Datum)} {ds : List Datum}
    (hcontent : ContentRegular fs) (hrest : YieldsRegular ds) :
    YieldsRegular (.record fs :: ds) := by
  refine ⟨?_, ?_, fun header => ?_, fun header => ?_⟩
  · rw [ofTokens]
    exact hcontent.token.bind fun node hnode => hrest.tokens.bind fun ns hns =>
      .pure (hnode.append hns)
  · -- the rows of one section come before those of the others
    have hlater : ∀ {x : Except ShapeError (List Node)}, Yields (AreRegular .table) x →
        Yields (AreRegular .table) (do return (← x) ++ (← Node.sections ds)) :=
      fun hx => hx.bind fun ns hns => hrest.sections.bind fun ms hms => .pure (hns.append hms)
    rw [sections]
    -- a part of a table is a head, a body, a row of its own, or nothing
    split
    · split_ifs
      · exact hlater (hcontent.sectionRows true)
      · exact hlater (hcontent.sectionRows false)
      · exact (hcontent.row false).bind fun n hn =>
          hlater (.pure (.cons (by rw [hn.1]; rfl) hn.2 .nil))
      · exact hlater (.pure .nil)
    · exact hlater (.pure .nil)
  · rw [rows]
    exact (hcontent.row header).bind fun n hn => (hrest.rows header).bind fun ns hns =>
      .pure (.cons (by rw [hn.1]; rfl) hn.2 hns)
  · rw [cells]
    -- a cell holds what a document may hold, and is the only node that is a header
    refine hcontent.content.bind fun children hchildren => .bind_any fun attrs =>
      (hrest.cells header).bind fun ns hns => .pure (.cons rfl ?_ hns)
    exact (hchildren.below rfl).throughout rfl (Or.inl rfl) (Or.inr rfl)

/-- Every list of tokens yields regular nodes. The induction goes down into all lists in the fields
of a token, since a text field may hold tokens, too. -/
theorem yieldsRegular (ds : List Datum) : YieldsRegular ds := by
  induction ds using sequence_induction with
  | step ds ih =>
    induction ds with
    | nil =>
      refine ⟨?_, ?_, fun header => ?_, fun header => ?_⟩
      · rw [ofTokens]
        exact .pure .nil
      · rw [sections]
        exact .pure .nil
      · rw [rows]
        exact .pure .nil
      · rw [cells]
        exact .pure .nil
    | cons d ds ihRest =>
      have hrest := ihRest fun fs hfs => ih fs (List.mem_cons_of_mem d hfs)
      by_cases hd : ∃ fs, d = .record fs
      · obtain ⟨fs, rfl⟩ := hd
        exact yieldsRegular_cons (ih fs List.mem_cons_self) hrest
      · exact yieldsRegular_cons_of_ne fun fs heq => hd ⟨fs, heq⟩

/-! ## Documents

An answer that is no list, or an empty one, gives a document without blocks. -/

/-- The tree of an answer is a document, regular at every depth. -/
theorem yields_ofDocument (answer : Datum) :
    Yields (fun tree => tree.kind = .document ∧ tree.Throughout IsRegular) (ofDocument answer) := by
  have hdocument : ∀ {ns : List Node}, AreRegular .document ns →
      ({ kind := .document, children := ns } : Node).Throughout IsRegular :=
    fun hns => hns.throughout rfl (Or.inl rfl) (Or.inl rfl)
  unfold ofDocument
  split
  · exact .bind_any fun ds => (yieldsRegular ds).tokens.bind fun ns hns =>
      .pure ⟨rfl, hdocument hns⟩
  · exact .pure ⟨rfl, hdocument .nil⟩

/-- Whatever a document is read of, it is regular at every depth, and all its tables and texts are
taken whole. -/
theorem isRegular_ofDocument {answer : Datum} {tree : Node} (h : ofDocument answer = .ok tree) :
    tree.kind = .document ∧ tree.Throughout fun n => n.IsRegular ∧ n.IsTakenWhole := by
  obtain ⟨hkind, htree⟩ := yields_ofDocument answer tree h
  exact ⟨hkind, htree.imp fun n hn => ⟨hn.holds, hn.isTakenWhole⟩⟩

/-- A table with a paragraph in its head, a cell of its own, and a row with a table for its cell; and
a row outside tables. -/
def misplacedTokens : List Datum :=
  [.record [("type", .text "table"), ("children", .list
      [.record [("type", .text "table_head"), ("children", .list
          [.record [("type", .text "paragraph"), ("children", .list
            [.record [("type", .text "text"), ("raw", .text "a")]])]])],
        .record [("type", .text "table_cell"), ("raw", .text "b")],
        .record [("type", .text "table_row"), ("children", .list
          [.record [("type", .text "table")]])]])],
    .record [("type", .text "table_row"), ("raw", .text "c")]]

/-- The paragraph is read as a row, the table in the row as a cell, and the row outside tables as a
text; the cell of its own is left out. -/
def misplacedTree : Node :=
  { kind := .document
    children :=
      [{ kind := .table
         children :=
           [{ kind := .tableRow, children := [{ kind := .tableCell, header := true }] },
             { kind := .tableRow, children := [{ kind := .tableCell }] }] },
        .ofText "c"] }

theorem ofDocument_misplacedTokens : ofDocument (.list misplacedTokens) = .ok misplacedTree := by
  have habsent : Datum.absent.textIfPresent = [] := rfl
  simp [misplacedTokens, misplacedTree, ofDocument, isTruthy, items, ofTokens, ofToken, type?,
    field?, Text.isLiteral, Text.ofString_inj, lookup?, TokenType.names, tableRows_eq, sections,
    sectionRows_eq, startsWithCell, isText, rows, row_eq, cells, content_eq, attributes, fields,
    habsent, ofText, bind, Except.bind, pure, Except.pure]

theorem isRegular_ofDocument_misplacedTokens :
    ofDocument (.list misplacedTokens) = .ok misplacedTree ∧ misplacedTree.kind = .document ∧
      misplacedTree.Throughout fun n => n.IsRegular ∧ n.IsTakenWhole :=
  ⟨ofDocument_misplacedTokens, isRegular_ofDocument ofDocument_misplacedTokens⟩

end Node

end Wordsmith
