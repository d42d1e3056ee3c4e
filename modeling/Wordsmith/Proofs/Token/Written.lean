import Wordsmith.Proofs.Token.Reading
import Wordsmith.Proofs.Tree.Regular

/-!
# Trees written as tokens

A regular tree whose nodes have no fields but those of their kinds can be written as tokens
(`Node.token`). Read again, these tokens give the same tree but for one thing: a list whose first number
is zero comes back as one that starts from one (`Node.ofDocument_tokens`).

## How a tree comes back

* `Node.IsWritable` — which trees can be written: a node has no fields but those of its kind.
* `ofToken_token`, `row_token`, `cells_token` — the token of a node is read as the node, in the place
  where nodes of its kind may stand.
* `Throughout.isReadBack` — the three of them together, by induction over the tree.
* `Node.fromOne` — what is read instead of the tree, and `fromOne_eq_iff` when that is the tree itself.
-/

namespace Wordsmith

open Datum Token

namespace Node

/-! ## What a token can tell

A token of some type has a few fields, and all others of the node that is read from it are at their
defaults. `Node.trimmed` puts them there, so a node is the one that its token can tell about if
trimming leaves it alone. -/

/-- The node with the fields of its kind alone. -/
def trimmed (n : Node) : Node :=
  let { kind, children, .. } := n
  match kind with
  | .heading => { kind, children, level := n.level }
  | .text | .inlineCode | .html => { kind, text := n.text }
  | .codeBlock => { kind, text := n.text, language := n.language }
  | .orderedList => { kind, children, start := n.start }
  | .taskListItem => { kind, children, checked := n.checked }
  | .tableCell => { kind, children, align := n.align, header := n.header }
  | .link => { kind, children, url := n.url, title := n.title }
  | .image => { kind, url := n.url, title := n.title, alt := n.alt }
  | .horizontalRule | .lineBreak | .softBreak => { kind }
  | _ => { kind, children }

/-- A node that can be written as a token: regular, and with no fields but those of its kind. -/
@[mk_iff]
structure IsWritable (n : Node) : Prop extends n.IsRegular where
  trimmed : n.trimmed = n

/-! ## Lists that start from one

The first number of a list is read as one if it is missing and also if it is zero, which counts as
false. Other nodes keep their start, which is one unless they are ordered lists. -/

mutual

/-- The tree with the lists that start from zero, at any depth, starting from one. -/
def fromOne : Node → Node
  | ⟨kind, children, text, level, language, url, title, alt, align, header, checked, start⟩ =>
    ⟨kind, allFromOne children, text, level, language, url, title, alt, align, header, checked,
      if start = 0 then 1 else start⟩

def allFromOne : List Node → List Node
  | [] => []
  | n :: ns => n.fromOne :: allFromOne ns

end

mutual

/-- The tree changes exactly if some list in it starts from zero. -/
theorem fromOne_eq_iff (n : Node) : n.fromOne = n ↔ n.Throughout fun n => n.start ≠ 0 := by
  obtain ⟨kind, children, text, level, language, url, title, alt, align, header, checked, start⟩ :=
    n
  -- at the node itself; below it the children are asked
  have hstart : (if start = 0 then 1 else start) = start ↔ start ≠ 0 := by
    split_ifs <;> omega
  rw [fromOne]
  constructor
  · intro h
    have hfields := Node.mk.inj h
    exact .mk (hstart.mp (by simp only [hfields])) ((allFromOne_eq_iff children).mp hfields.2.1)
  · intro h
    rw [(allFromOne_eq_iff children).mpr fun c hc => h.of_mem hc, hstart.mpr h.holds]

theorem allFromOne_eq_iff (ns : List Node) :
    allFromOne ns = ns ↔ ∀ n ∈ ns, n.Throughout fun n => n.start ≠ 0 := by
  cases ns with
  | nil => exact ⟨fun _ => List.forall_mem_nil _, fun _ => rfl⟩
  | cons n ns =>
    rw [allFromOne, List.cons.injEq, fromOne_eq_iff n, allFromOne_eq_iff ns, List.forall_mem_cons]

end

/-! ## Reading a written token

The readers of `Node.ofToken` allow for missing and ill-typed fields. A written token has each field in
the right type, and for these the results are given without defaults. -/

section Reading

variable {fs : List (Text × Datum)} (attrs : List (Text × Datum)) {nodes : List Node}

theorem ofToken_heading_of_whole {level : Int} (htype : IsTyped "heading" fs)
    (hattrs : HasAttributes fs attrs) (hlevel : field? "level" attrs = some (.whole level))
    (hcontent : contentOrText fs = .ok nodes) :
    ofToken (.record fs) = .ok (some { kind := .heading, level, children := nodes }) := by
  rw [ofToken_heading htype hattrs hcontent, attributeOr, hlevel]
  rfl

theorem ofToken_blockCode_of_text {t language : Text} (htype : IsTyped "block_code" fs)
    (hattrs : HasAttributes fs attrs) (hinfo : field? "info" attrs = some (.text language))
    (hraw : HasRaw fs t) :
    ofToken (.record fs) = .ok (some { kind := .codeBlock, text := t, language }) := by
  rw [ofToken_blockCode htype hattrs hraw, attributeOr, hinfo]
  simp only [Option.some_or, Option.getD_some, textIfPresent_text]

theorem ofToken_link_of_text {url title : Text} (htype : IsTyped "link" fs)
    (hattrs : HasAttributes fs attrs) (hurl : field? "url" attrs = some (.text url))
    (htitle : field? "title" attrs = some (.text title)) (hcontent : contentOrText fs = .ok nodes) :
    ofToken (.record fs) = .ok (some { kind := .link, url, title, children := nodes }) := by
  rw [ofToken_link htype hattrs hcontent, attributeOr, hurl, htitle]
  simp only [Option.some_or, Option.getD_some, textIfPresent_text]

/-- An image without words of its own has those of the text below it. -/
theorem ofToken_image_of_text {url title alt : Text} (htype : IsTyped "image" fs)
    (hattrs : HasAttributes fs attrs) (hurl : field? "url" attrs = some (.text url))
    (htitle : field? "title" attrs = some (.text title)) (hown : field? "alt" attrs = none)
    (halt : field? "alt" fs = none) (hchildren : HasChildren fs [word alt]) :
    ofToken (.record fs) = .ok (some { kind := .image, url, title, alt }) := by
  -- the single word below the image is its alternative text
  have hword : allWords [word alt] = alt := by
    rw [allWords, allWords, word, words]
    exact List.append_nil alt
  have hwords : imageWords attrs fs = .ok alt := by
    rw [imageWords, attributeOr, hown, halt, hchildren]
    exact congrArg Except.ok hword
  rw [ofToken_image htype hattrs hwords, attributeOr, hurl, htitle]
  simp only [Option.some_or, Option.getD_some, textIfPresent_text]

/-- A list starts from one if it says nothing, and also if it says zero. -/
theorem ofToken_list_start (ordered : Bool) {start : Int} (htype : IsTyped "list" fs)
    (hattrs : HasAttributes fs attrs)
    (hordered : ((field? "ordered" attrs).getD (.flag false)).isTruthy = ordered)
    (hstart : (field? "start" attrs).getD (.whole 1) = .whole start)
    (hcontent : content fs = .ok nodes) :
    ofToken (.record fs)
      = .ok (some
          { kind := if ordered then .orderedList else .unorderedList
            children := nodes
            start := if start = 0 then 1 else start }) := by
  -- zero counts as false, so it gives way to one
  have hread : (if (Datum.whole start).isTruthy then (Datum.whole start).toInt else 1)
      = if start = 0 then 1 else start := by
    show (if decide (start ≠ 0) = true then start else 1) = _
    split_ifs <;> simp_all
  rw [ofToken_list htype hattrs hcontent, hordered, hstart, hread]

theorem cells_cons_of_text {align : Text} {header : Bool} {rest : List Datum} {others : List Node}
    (hattrs : HasAttributes fs attrs) (halign : field? "align" attrs = some (.text align))
    (hhead : field? "head" attrs = some (.flag header)) (hcontent : content fs = .ok nodes)
    (hrest : cells false rest = .ok others) :
    cells false (.record fs :: rest)
      = .ok ({ kind := .tableCell, children := nodes, align, header } :: others) := by
  rw [cells_cons hattrs hcontent hrest, halign, hhead]
  simp only [Option.getD_some, textIfPresent_text, isTruthy]

end Reading

/-! ## Reading back

A node is read as a token, as a row or as a cell, depending on where it stands. `IsReadBack` has all
three, so that one induction over the tree suffices; a node that may not stand in one of these places
satisfies that part trivially. -/

/-- The token of a node is read back, as a token, as a row or as a cell, by what the node is. -/
structure IsReadBack (n : Node) : Prop where
  token : NodeKind.document.mayHold n.kind = true → ofToken n.token = .ok (some n.fromOne)
  row : n.kind = .tableRow → ∃ fs, n.token = .record fs ∧ IsTyped "table_row" fs ∧
    row false fs = .ok n.fromOne
  cell : n.kind = .tableCell → ∀ {rest nodes}, cells false rest = .ok nodes →
    cells false (n.token :: rest) = .ok (n.fromOne :: nodes)

section Sequences

variable {ns : List Node}

/-- Tokens in a place where blocks or inline content may stand are read one by one. -/
theorem ofTokens_tokens (hplaces : ∀ n ∈ ns, NodeKind.document.mayHold n.kind = true)
    (h : ∀ n ∈ ns, n.IsReadBack) : ofTokens (tokens ns) = .ok (allFromOne ns) := by
  induction ns with
  | nil => exact ofTokens_nil
  | cons n ns ih =>
    rw [List.forall_mem_cons] at hplaces h
    rw [tokens, ofTokens_cons (h.1.token hplaces.1) (ih hplaces.2 h.2), allFromOne]
    rfl

/-- The cells of a row are read in the same way, by a reader of their own. -/
theorem cells_tokens (hplaces : ∀ n ∈ ns, n.kind = .tableCell) (h : ∀ n ∈ ns, n.IsReadBack) :
    cells false (tokens ns) = .ok (allFromOne ns) := by
  induction ns with
  | nil => exact cells_nil false
  | cons n ns ih =>
    rw [List.forall_mem_cons] at hplaces h
    rw [tokens, h.1.cell hplaces.1 (ih hplaces.2 h.2), allFromOne]

/-- Rows likewise. -/
theorem rows_tokens (hplaces : ∀ n ∈ ns, n.kind = .tableRow) (h : ∀ n ∈ ns, n.IsReadBack) :
    rows false (tokens ns) = .ok (allFromOne ns) := by
  induction ns with
  | nil => exact rows_nil false
  | cons n ns ih =>
    rw [List.forall_mem_cons] at hplaces h
    obtain ⟨fs, htoken, -, hrow⟩ := h.1.row hplaces.1
    rw [tokens, htoken, rows, hrow, ih hplaces.2 h.2, allFromOne]
    rfl

/-- The rows of a table stand in a body, which does not start with a cell. -/
theorem tableRows_tokens (hplaces : ∀ n ∈ ns, n.kind = .tableRow) (h : ∀ n ∈ ns, n.IsReadBack)
    {fs body : List (Text × Datum)} (hchildren : HasChildren fs [.record body])
    (hbody : IsTyped "table_body" body) (hrows : HasChildren body (tokens ns)) :
    tableRows fs = .ok (allFromOne ns) := by
  -- rows stand below the body, so the body itself is not taken for a row
  have hstart : startsWithCell (tokens ns) = .ok false := by
    cases ns with
    | nil => rfl
    | cons n ns =>
      obtain ⟨fs, htoken, htype, -⟩ := (h n List.mem_cons_self).row (hplaces n List.mem_cons_self)
      rw [tokens, htoken]
      exact startsWithCell_of_isTyped htype _
  have hsection : sectionRows false body = .ok (allFromOne ns) := by
    rw [sectionRows_of_hasChildren hrows, hstart]
    exact rows_tokens hplaces h
  rw [tableRows_of_hasChildren hchildren, sections_body hbody hsection]

end Sequences

section Nodes

variable {n : Node}

/-- A node that takes blocks or inline content has children that may stand in a document. -/
theorem ofTokens_children (h : n.IsRegular) (hopen : n.kind.isOpen = true)
    (hbelow : ∀ c ∈ n.children, c.IsReadBack) :
    ofTokens (tokens n.children) = .ok (allFromOne n.children) :=
  ofTokens_tokens
    (fun c hc => (NodeKind.mayHold_of_isOpen hopen c.kind).symm.trans (h.children c hc)) hbelow

/-- The token of a node that may stand in a document is read by the type that it has, if the tokens
below it are read back. -/
theorem ofToken_token (h : n.IsWritable) (hplace : NodeKind.document.mayHold n.kind = true)
    (hbelow : ∀ c ∈ n.children, c.IsReadBack) : ofToken n.token = .ok (some n.fromOne) := by
  -- what is read below the token, if it is content, and what it is made of, if it is a table
  have hcontent : n.kind.isOpen = true →
      ofTokens (tokens n.children) = .ok (allFromOne n.children) :=
    fun hopen => ofTokens_children h.toIsRegular hopen hbelow
  have hrows : n.kind = .table → ∀ c ∈ n.children, c.kind = .tableRow :=
    fun hkind c hc => h.kind_of_mem_table hkind hc
  have htrimmed := h.trimmed
  obtain ⟨kind, children, text, level, language, url, title, alt, align, header, checked, start⟩ :=
    n
  -- each kind is trimmed to its own fields, and its token has the type that is read as this kind
  cases kind with
  | document | tableRow | tableCell => exact absurd hplace Bool.false_ne_true
  | heading =>
    cases htrimmed
    rw [token]
    exact ofToken_heading_of_whole [("level", .whole level)] rfl rfl rfl
      (contentOrText_of_hasInline ⟨rfl, fun _ => rfl⟩ (hcontent rfl))
  | paragraph =>
    cases htrimmed
    exact ofToken_paragraph (Or.inl rfl)
      (contentOrText_of_hasInline ⟨rfl, fun _ => rfl⟩ (hcontent rfl))
  | text =>
    cases htrimmed
    exact ofToken_word .text .text rfl (by decide) rfl
  | inlineCode =>
    cases htrimmed
    exact ofToken_word .codeSpan .inlineCode rfl (by decide) rfl
  | html =>
    cases htrimmed
    exact ofToken_word .inlineHtml .html rfl (by decide) rfl
  | quote =>
    cases htrimmed
    exact ofToken_holder .blockQuote .quote rfl (by decide)
      (content_of_hasChildren rfl (hcontent rfl))
  | bold =>
    cases htrimmed
    exact ofToken_holder .strong .bold rfl (by decide)
      (content_of_hasChildren rfl (hcontent rfl))
  | italic =>
    cases htrimmed
    exact ofToken_holder .emphasis .italic rfl (by decide)
      (content_of_hasChildren rfl (hcontent rfl))
  | strikethrough =>
    cases htrimmed
    exact ofToken_holder .strikethrough .strikethrough rfl (by decide)
      (content_of_hasChildren rfl (hcontent rfl))
  | codeBlock =>
    cases htrimmed
    rw [token]
    exact ofToken_blockCode_of_text [("info", .text language)] rfl rfl rfl rfl
  | horizontalRule =>
    cases htrimmed
    exact ofToken_mark .thematicBreak .horizontalRule rfl (by decide)
  | lineBreak =>
    cases htrimmed
    exact ofToken_mark .lineBreak .lineBreak rfl (by decide)
  | softBreak =>
    cases htrimmed
    exact ofToken_mark .softBreak .softBreak rfl (by decide)
  | listItem =>
    cases htrimmed
    exact ofToken_listItem rfl rfl (content_of_hasChildren rfl (hcontent rfl))
  | taskListItem =>
    cases htrimmed
    rw [token]
    exact @ofToken_taskListItem _ [("checked", .flag checked)] _ rfl rfl
      (content_of_hasChildren rfl (hcontent rfl))
  | unorderedList =>
    cases htrimmed
    rw [token]
    exact ofToken_list_start [("ordered", .flag false)] false rfl rfl rfl
      rfl (content_of_hasChildren rfl (hcontent rfl))
  | orderedList =>
    cases htrimmed
    rw [token]
    -- a start of one is not written, and not written it is read as one
    have hstart : (field? "start" (("ordered", .flag true) ::
        if start = 1 then [] else [("start", .whole start)])).getD (.whole 1) = .whole start := by
      split_ifs with hone
      · rw [hone]
        rfl
      · rfl
    exact ofToken_list_start _ true rfl rfl rfl hstart
      (content_of_hasChildren rfl (hcontent rfl))
  | table =>
    cases htrimmed
    exact ofToken_table rfl (tableRows_tokens (hrows rfl) hbelow rfl rfl rfl)
  | link =>
    cases htrimmed
    rw [token]
    exact ofToken_link_of_text [("url", .text url), ("title", .text title)] rfl rfl rfl
      rfl (contentOrText_of_hasInline ⟨rfl, fun _ => rfl⟩ (hcontent rfl))
  | image =>
    cases htrimmed
    rw [token]
    exact ofToken_image_of_text [("url", .text url), ("title", .text title)] rfl rfl rfl
      rfl rfl rfl rfl

/-- A row is read by the reader of rows, which its table calls. -/
theorem row_token (h : n.IsWritable) (hkind : n.kind = .tableRow)
    (hbelow : ∀ c ∈ n.children, c.IsReadBack) :
    ∃ fs, n.token = .record fs ∧ IsTyped "table_row" fs ∧ row false fs = .ok n.fromOne := by
  have hcells : cells false (tokens n.children) = .ok (allFromOne n.children) :=
    cells_tokens (fun c hc => h.kind_of_mem_tableRow hkind hc) hbelow
  have htrimmed := h.trimmed
  obtain ⟨kind, children, text, level, language, url, title, alt, align, header, checked, start⟩ :=
    n
  cases hkind
  cases htrimmed
  exact ⟨_, rfl, rfl, row_of_hasChildren rfl hcells⟩

/-- A cell is read together with the cells behind it. -/
theorem cells_token (h : n.IsWritable) (hkind : n.kind = .tableCell)
    (hbelow : ∀ c ∈ n.children, c.IsReadBack) {rest : List Datum} {nodes : List Node}
    (hrest : cells false rest = .ok nodes) :
    cells false (n.token :: rest) = .ok (n.fromOne :: nodes) := by
  have hchildren := ofTokens_children h.toIsRegular (by rw [hkind]; rfl) hbelow
  have htrimmed := h.trimmed
  obtain ⟨kind, children, text, level, language, url, title, alt, align, header, checked, start⟩ :=
    n
  cases hkind
  cases htrimmed
  rw [token]
  exact cells_cons_of_text [("align", .text align), ("head", .flag header)] rfl rfl rfl
    (content_of_hasChildren rfl hchildren) hrest

/-- Every node of a writable tree is read back. -/
theorem Throughout.isReadBack (h : n.Throughout IsWritable) : n.IsReadBack := by
  induction h with
  -- one place for each kind of reader, with the children read back by induction
  | mk hwritable _ hbelow =>
    exact ⟨fun hplace => ofToken_token hwritable hplace hbelow,
      fun hkind => row_token hwritable hkind hbelow,
      fun hkind _ _ hrest => cells_token hwritable hkind hbelow hrest⟩

end Nodes

/-! ## Documents

A document has no token of its own: the list of its children is what is written and read. -/

/-- The tokens of a writable tree are read as the same tree, but that lists that start from zero
start from one. -/
theorem ofDocument_tokens {tree : Node} (hkind : tree.kind = .document)
    (h : tree.Throughout IsWritable) :
    ofDocument (.list (tokens tree.children)) = .ok tree.fromOne ∧
      (ofDocument (.list (tokens tree.children)) = .ok tree ↔
        tree.Throughout fun n => n.start ≠ 0) := by
  have hchildren : ofTokens (tokens tree.children) = .ok (allFromOne tree.children) :=
    ofTokens_children h.holds.toIsRegular (by rw [hkind]; rfl) fun c hc => (h.of_mem hc).isReadBack
  -- an empty list is falsy and gives the empty document at once
  have hread : ofDocument (.list (tokens tree.children)) = .ok tree.fromOne := by
    have htrimmed := h.holds.trimmed
    obtain ⟨kind, children, text, level, language, url, title, alt, align, header, checked, start⟩ :=
      tree
    cases hkind
    cases htrimmed
    cases children with
    | nil => rfl
    | cons c cs =>
      show (do return ({ kind := .document, children := ← ofTokens _ } : Node)) = _
      rw [hchildren]
      rfl
  exact ⟨hread, by rw [hread, Except.ok.injEq, fromOne_eq_iff]⟩

/-- A list from zero with a task and a list in it, a table with an image and a link in its cells, and
code. -/
def zeroList : Node :=
  { kind := .document
    children :=
      [{ kind := .orderedList
         start := 0
         children :=
           [{ kind := .listItem
              children :=
                [{ kind := .paragraph, children := [.ofText "a", { kind := .softBreak }] },
                  { kind := .unorderedList, children := [{ kind := .listItem }] }] },
             { kind := .taskListItem, checked := true }] },
        { kind := .table
          children :=
            [{ kind := .tableRow
               children :=
                 [{ kind := .tableCell
                    header := true
                    align := "left"
                    children := [{ kind := .image, url := "u", alt := "b" }] },
                   { kind := .tableCell
                     children :=
                       [{ kind := .link, title := "t", children := [.ofText "c"] }] }] }] },
        { kind := .heading, level := -3, children := [{ kind := .inlineCode, text := "d" }] },
        { kind := .codeBlock, text := "e", language := "f" }] }

theorem ofDocument_tokens_zeroList :
    zeroList.kind = .document ∧ zeroList.Throughout IsWritable ∧
      ofDocument (.list (tokens zeroList.children)) = .ok zeroList.fromOne ∧
      ofDocument (.list (tokens zeroList.children)) ≠ .ok zeroList := by
  have hwritable : zeroList.Throughout IsWritable := by
    rw [zeroList]
    simp [Throughout.iff_of_children (n := Node.mk ..), isWritable_iff, isRegular_iff, ofText,
      Node.trimmed, NodeKind.mayHold, NodeKind.isOpen, NodeKind.isLeaf, NodeKind.hasText]
  -- the list at the front starts from zero
  have hzero : ¬ zeroList.Throughout fun n => n.start ≠ 0 := fun h =>
    (h.of_mem List.mem_cons_self).holds rfl
  have h := ofDocument_tokens rfl hwritable
  exact ⟨rfl, hwritable, h.1, fun hread => hzero (h.2.mp hread)⟩

end Node

end Wordsmith
