import Wordsmith.Proofs.Package.Texts
import Wordsmith.Tree.Elements

/-!
# The text of a tree

A heading stores the visible text of its nodes, and every other block the runs that they give. For
inline nodes without pictures and raw HTML the two are the same text (`Node.ShowInline`), and
flattening lists and tables keeps the order of the texts.

The statements come in the shape of the tree: what holds of nodes in a line, of paragraphs, of the
items of a list, of the cells of a table and of blocks. In each of these places the nodes *show* a text
(`ShowInline`, `ShowParagraphs`, `ShowItems`, `ShowLists`, `ShowCells`, `ShowRows`, `ShowBlock`), and
putting nodes together puts the texts together. The last of them, `ShowBlocks`, is about a whole
document.
-/

namespace Wordsmith

namespace Run

/-- The text of runs in a row. -/
@[simp] theorem allText_append (rs ss : List Run) : allText (rs ++ ss) = allText rs ++ allText ss :=
  List.flatMap_append

/-- Marking runs does not change their texts. -/
theorem allText_map {mark : Run → Run} (h : ∀ r, (mark r).text = r.text) (rs : List Run) :
    allText (rs.map mark) = allText rs := by
  unfold allText
  rw [List.flatMap_map]
  exact List.flatMap_congr fun r _ => h r

end Run

namespace Node

/-! ## Inline nodes

Two functions gather the text of a line: `plainTexts` for headings and `allRuns` for everything else.
They agree on words, code, breaks and on what encloses them, and disagree on pictures, whose words only
`plainTexts` gathers. `ShowInline` has both and excludes pictures. -/

/-- Runs are gathered from left to right. -/
theorem allRuns_cons (n : Node) (ns : List Node) : allRuns (n :: ns) = n.runs ++ allRuns ns := by
  rw [allRuns]

/-- And so are words. -/
theorem plainTexts_cons (n : Node) (ns : List Node) :
    plainTexts (n :: ns) = n.plainText ++ plainTexts ns := by
  rw [plainTexts]

/-- Marks leave the text of a run alone. -/
theorem text_of_marking? {kind : NodeKind} {url : Text} {mark : Run → Run}
    (h : marking? kind url = some mark) (r : Run) : (mark r).text = r.text := by
  unfold marking? at h
  split at h <;> cases h <;> rfl

/-- The nodes show a text: their runs and their visible text are this text, and there is no picture
among them. -/
structure ShowInline (ns : List Node) (t : Text) : Prop where
  runs : Run.allText (allRuns ns) = t
  plain : plainTexts ns = t
  noImage : ∀ n ∈ ns, n.kind ≠ .image

namespace ShowInline

variable {ns : List Node} {t u : Text}

/-- No nodes show no text. -/
theorem nil : ShowInline [] [] := ⟨rfl, rfl, nofun⟩

/-- A node in front adds its text. -/
theorem cons {n : Node} (hruns : Run.allText n.runs = t) (hplain : n.plainText = t)
    (himage : n.kind ≠ .image) (h : ShowInline ns u) : ShowInline (n :: ns) (t ++ u) where
  runs := by rw [allRuns_cons, Run.allText_append, hruns, h.runs]
  plain := by rw [plainTexts_cons, hplain, h.plain]
  noImage := List.forall_mem_cons.mpr ⟨himage, h.noImage⟩

/-- Words show themselves. An empty text gives no run, and shows nothing either way. -/
theorem text (t : Text) (h : ShowInline ns u) : ShowInline (ofText t :: ns) (t ++ u) := by
  apply cons _ _ _ h
  · show Run.allText (textRuns t) = t
    unfold textRuns
    cases t with
    | nil => rfl
    | cons c t => exact List.append_nil _
  · exact List.append_nil t
  · show NodeKind.text ≠ .image
    decide

/-- Code shows its text. -/
theorem code (t : Text) (h : ShowInline ns u) :
    ShowInline ({ kind := .inlineCode, text := t } :: ns) (t ++ u) :=
  cons (List.append_nil t) (List.append_nil t) nofun h

/-- A break shows a space, be it hard or soft. -/
theorem lineBreak {kind : NodeKind} (hkind : kind.isBreak = true) (h : ShowInline ns u) :
    ShowInline ({ kind } :: ns) (" " ++ u) := by
  cases kind with
  | lineBreak => exact cons rfl rfl nofun h
  | softBreak => exact cons rfl rfl nofun h
  | _ => exact absurd hkind (by decide)

/-- Emphasis and links show what is in them: they mark the runs and add no words. -/
theorem wrapper {kind : NodeKind} {url title : Text} {mark : Run → Run} {inner : List Node}
    (hmark : marking? kind url = some mark) (hinner : ShowInline inner t) (h : ShowInline ns u) :
    ShowInline ({ kind, url, title, children := inner } :: ns) (t ++ u) := by
  -- only these four kinds mark their runs
  have hkind : kind = .bold ∨ kind = .italic ∨ kind = .strikethrough ∨ kind = .link := by
    unfold marking? at hmark
    split at hmark <;> simp_all
  have hruns : Node.runs { kind, url, title, children := inner } = (allRuns inner).map mark := by
    rw [runs.eq_def]
    rcases hkind with rfl | rfl | rfl | rfl <;> simp only [hmark]
  apply cons _ _ _ h
  · rw [hruns, Run.allText_map (text_of_marking? hmark), hinner.runs]
  · rcases hkind with rfl | rfl | rfl | rfl <;> exact hinner.plain
  · show kind ≠ .image
    rcases hkind with rfl | rfl | rfl | rfl <;> decide

end ShowInline

/-! ## Paragraphs and lists

An item holds paragraphs and, after them, lists. Flattening puts the runs of the paragraphs into the
item and the items of the lists behind it, so the texts stay in order. -/

/-- The nodes are paragraphs, which show a text. -/
structure ShowParagraphs (ns : List Node) (t : Text) : Prop where
  kind : ∀ n ∈ ns, n.kind = .paragraph
  runs : Run.allText (ns.flatMap fun n => allRuns n.children) = t

/-- No paragraphs show no text. -/
theorem ShowParagraphs.nil : ShowParagraphs [] [] := ⟨nofun, rfl⟩

/-- A paragraph in front adds the text of its line. -/
theorem ShowParagraphs.cons {ns inner : List Node} {t u : Text} (hinner : ShowInline inner t)
    (h : ShowParagraphs ns u) :
    ShowParagraphs ({ kind := .paragraph, children := inner } :: ns) (t ++ u) where
  kind := List.forall_mem_cons.mpr ⟨rfl, h.kind⟩
  runs := by rw [List.flatMap_cons, Run.allText_append, hinner.runs, h.runs]

/-- The text of list items in order. -/
def itemsText (items : List ListItem) : Text := items.flatMap fun item => Run.allText item.runs

/-- The nodes are the children of a list, whose items show a text, wherever the list stands. -/
structure ShowItems (ns : List Node) (t : Text) : Prop where
  items : ∀ level, itemsText (listItems level ns) = t

/-- The nodes are the lists in an item, whose items show a text. -/
structure ShowLists (ns : List Node) (t : Text) : Prop where
  kind : ∀ n ∈ ns, n.kind.isList = true
  items : ∀ level, itemsText (nestedItems level ns) = t

/-- A list without items shows no text. -/
theorem ShowItems.nil : ShowItems [] [] := ⟨fun level => by rw [listItems]; rfl⟩

/-- An item without lists in it shows only its own text. -/
theorem ShowLists.nil : ShowLists [] [] := ⟨nofun, fun level => by rw [nestedItems]; rfl⟩

/-- An item's own runs are those of its paragraphs; the lists in it are passed over. -/
theorem ownRuns_append {own lists : List Node} {t u : Text} (hown : ShowParagraphs own t)
    (hlists : ShowLists lists u) :
    Run.allText (ownRuns (own ++ lists)) = t := by
  -- the lists are filtered out, and nothing else is
  have hfilter : (own ++ lists).filter (fun n => !n.kind.isList) = own := by
    have hkeep : own.filter (fun n => !n.kind.isList) = own := by
      rw [List.filter_eq_self]
      intro n hn
      rw [hown.kind n hn]
      rfl
    have hdrop : lists.filter (fun n => !n.kind.isList) = [] := by
      rw [List.filter_eq_nil_iff]
      intro n hn
      rw [hlists.kind n hn]
      decide
    rw [List.filter_append, hkeep, hdrop, List.append_nil]
  have hruns : ∀ n ∈ own, itemRuns n = allRuns n.children := by
    intro n hn
    unfold itemRuns
    rw [hown.kind n hn]
  unfold ownRuns
  rw [hfilter, List.flatMap_congr hruns, hown.runs]

/-- The items of the lists in an item do not come from its paragraphs. -/
theorem nestedItems_append {own : List Node} {t : Text} (hown : ShowParagraphs own t)
    (level : Nat) (lists : List Node) :
    nestedItems level (own ++ lists) = nestedItems level lists := by
  have hkind := hown.kind
  -- the induction needs the kinds alone
  clear hown
  induction own with
  | nil => rfl
  | cons n own ih =>
    obtain ⟨hn, hrest⟩ := List.forall_mem_cons.mp hkind
    cases n
    change _ = NodeKind.paragraph at hn
    subst hn
    rw [List.cons_append, nestedItems, if_neg (by decide), ih hrest]

/-- The runs in front of an item: the box of a task. -/
def boxRuns (kind : NodeKind) (checked : Bool) : List Run :=
  if kind = .taskListItem then [{ text := checkbox checked }] else []

/-- An item in front adds its box, its own text and the text of the lists in it. -/
theorem ShowItems.cons {kind : NodeKind} {checked : Bool} {own lists ns : List Node}
    {t u v : Text} (hkind : kind.isItem = true) (hown : ShowParagraphs own t)
    (hlists : ShowLists lists u) (h : ShowItems ns v) :
    ShowItems ({ kind, checked, children := own ++ lists } :: ns)
      (Run.allText (boxRuns kind checked) ++ t ++ u ++ v) where
  items := by
    intro level
    -- the item itself, the items of the lists in it one level deeper, and those after it
    rw [listItems, if_pos hkind, nestedItems_append hown]
    show Run.allText (boxRuns kind checked ++ ownRuns (own ++ lists)) ++
      itemsText (nestedItems (level + 1) lists ++ listItems level ns) = _
    unfold itemsText
    rw [List.flatMap_append, Run.allText_append, ownRuns_append hown hlists]
    have hnested := hlists.items (level + 1)
    have hrest := h.items level
    unfold itemsText at hnested hrest
    rw [hnested, hrest]
    simp only [List.append_assoc]

/-- A list in front adds the text of its items. -/
theorem ShowLists.cons {kind : NodeKind} {start : Int} {items ns : List Node} {t u : Text}
    (hkind : kind.isList = true) (hitems : ShowItems items t) (h : ShowLists ns u) :
    ShowLists ({ kind, start, children := items } :: ns) (t ++ u) where
  kind := List.forall_mem_cons.mpr ⟨hkind, h.kind⟩
  items := by
    intro level
    rw [nestedItems, if_pos hkind]
    have hlist := hitems.items level
    have hrest := h.items level
    unfold itemsText at hlist hrest ⊢
    rw [List.flatMap_append, hlist, hrest]

/-! ## Tables

A cell becomes a cell with one paragraph. Rows and cells that are none would be filtered out, so the
kinds are part of the statements. -/

/-- The nodes are the cells of a row, which show a text. -/
structure ShowCells (ns : List Node) (t : Text) : Prop where
  kind : ∀ n ∈ ns, n.kind = .tableCell
  runs : Run.allText (ns.flatMap fun n => allRuns n.children) = t

/-- An empty row shows no text. -/
theorem ShowCells.nil : ShowCells [] [] := ⟨nofun, rfl⟩

/-- A cell in front adds the text of its line. -/
theorem ShowCells.cons {n : Node} {ns : List Node} {t u : Text} (hkind : n.kind = .tableCell)
    (hinner : ShowInline n.children t) (h : ShowCells ns u) : ShowCells (n :: ns) (t ++ u) where
  kind := List.forall_mem_cons.mpr ⟨hkind, h.kind⟩
  runs := by rw [List.flatMap_cons, Run.allText_append, hinner.runs, h.runs]

/-- The nodes are rows, whose cells show a text. -/
inductive ShowRows : List Node → Text → Prop where
  | nil : ShowRows [] []
  | cons {n : Node} {ns : List Node} {t u : Text} (hkind : n.kind = .tableRow)
      (hcells : ShowCells n.children t) (hrest : ShowRows ns u) : ShowRows (n :: ns) (t ++ u)

/-- The rows of the head and of the body, one after the other. -/
theorem ShowRows.append {ms ns : List Node} {t u : Text} (hm : ShowRows ms t)
    (hn : ShowRows ns u) : ShowRows (ms ++ ns) (t ++ u) := by
  induction hm with
  | nil => exact hn
  | cons hkind hcells _ ih =>
    rw [List.cons_append, List.append_assoc]
    exact .cons hkind hcells ih

/-! ## Blocks

The text of a document is the text of its pieces, so elements in a row show their texts in a row. -/

end Node

/-- Elements show their texts from left to right. -/
theorem Element.allText_append (es fs : List Element) :
    allText (es ++ fs) = allText es ++ allText fs := by
  have hpieces : allPieces (es ++ fs) = allPieces es ++ allPieces fs := by
    induction es with
    | nil => rfl
    | cons e es ih => rw [List.cons_append, allPieces, ih, allPieces, List.append_assoc]
  unfold allText
  rw [hpieces, List.flatMap_append]

/-- The text of one element is that of its pieces. -/
theorem Element.allText_singleton (e : Element) :
    allText [e] = e.pieces.flatMap Piece.allText := by
  unfold allText
  rw [allPieces, allPieces, List.append_nil]

namespace Node

/-- Only a paragraph that shows nothing but a picture becomes that picture. -/
theorem element?_paragraph {n : Node} (hkind : n.kind = .paragraph)
    (himage : ∀ c ∈ n.children, c.kind ≠ .image) :
    n.element? = some (.paragraph (allRuns n.children)) := by
  -- a sole picture would be among the children
  have hsole : soleImage? n.children = none := by
    unfold soleImage?
    split
    · rename_i image hfilter
      have hmem : image ∈ n.children.filter (!·.isInvisible) := by
        rw [hfilter]
        exact List.mem_cons_self
      exact if_neg (himage image (List.mem_filter.mp hmem).1)
    · rfl
  unfold element?
  rw [hkind]
  simp only [hsole]

/-- The node becomes an element that shows a text, or none if the text is empty. -/
def ShowBlock (n : Node) (t : Text) : Prop := Element.allText n.element?.toList = t

namespace ShowBlock

variable {ns : List Node} {t : Text}

/-- A block shows the text of its element. -/
theorem of_element? {n : Node} {e : Element} (h : n.element? = some e)
    (ht : e.pieces.flatMap Piece.allText = t) : ShowBlock n t := by
  unfold ShowBlock
  rw [h]
  exact (Element.allText_singleton e).trans ht

/-- A heading stores the visible text of its nodes. -/
theorem heading (level : Int) (h : ShowInline ns t) :
    ShowBlock { kind := .heading, level, children := ns } t := by
  have hplain : plainText { kind := .heading, level, children := ns } = t := by
    rw [plainText, if_neg (by decide), if_neg (by decide), if_neg (by decide), h.plain]
    rfl
  exact of_element? rfl ((List.append_nil _).trans hplain)

/-- Without a picture in it, a paragraph is a paragraph. -/
theorem paragraph (h : ShowInline ns t) : ShowBlock { kind := .paragraph, children := ns } t :=
  of_element? (element?_paragraph rfl h.noImage) ((List.append_nil _).trans h.runs)

/-- Code is kept as it is. -/
theorem codeBlock (text language : Text) :
    ShowBlock { kind := .codeBlock, text, language } text :=
  of_element? rfl (List.append_nil _)

/-- A rule shows no text. -/
theorem horizontalRule : ShowBlock { kind := .horizontalRule } [] := of_element? rfl rfl

/-- A quotation shows its paragraphs as one sequence of runs. -/
theorem quote (h : ShowParagraphs ns t) : ShowBlock { kind := .quote, children := ns } t := by
  have hruns : ∀ n ∈ ns, quoteRuns n = allRuns n.children := by
    intro n hn
    unfold quoteRuns
    rw [h.kind n hn]
  apply of_element? (e := .quote (ns.flatMap quoteRuns)) rfl
  rw [List.flatMap_congr hruns]
  exact (List.append_nil _).trans h.runs

/-- A list shows its items, counted from level zero. -/
theorem list {kind : NodeKind} {start : Int} (hkind : kind.isList = true) (h : ShowItems ns t) :
    ShowBlock { kind, start, children := ns } t := by
  -- each item is a piece of its own
  have hpieces : ∀ items : List ListItem,
      (items.map fun item => Piece.sequence item.runs).flatMap Piece.allText = itemsText items := by
    intro items
    rw [List.flatMap_map]
    rfl
  cases kind with
  | orderedList =>
    exact of_element? (e := .numberedList (listItems 0 ns)) rfl ((hpieces _).trans (h.items 0))
  | unorderedList =>
    exact of_element? (e := .bulletList (listItems 0 ns)) rfl ((hpieces _).trans (h.items 0))
  | _ => exact absurd hkind (by decide)

/-- Each row of a table shows its cells. -/
theorem table (h : ShowRows ns t) : ShowBlock { kind := .table, children := ns } t := by
  -- all nodes in a table are rows and all nodes in a row are cells, so none is filtered out
  have hcells : ∀ {cells : List Node} {u : Text}, ShowCells cells u →
      (Cell.allPieces ((cells.filter fun c => c.kind = .tableCell).map fun c =>
        ⟨[.paragraph (allRuns c.children)]⟩)).flatMap Piece.allText = u := by
    intro cells u hcells
    rw [List.filter_eq_self.mpr fun c hc => decide_eq_true (hcells.kind c hc), ← hcells.runs]
    clear hcells
    induction cells with
    | nil => rfl
    | cons c cells ih =>
      rw [List.map_cons, Cell.allPieces, List.flatMap_append, ih, List.flatMap_cons,
        Run.allText_append]
      exact congrArg (· ++ _) (List.append_nil _)
  have hrows : ∀ {rows : List Node} {u : Text}, ShowRows rows u →
      (Row.allPieces ((rows.filter fun row => row.kind = .tableRow).map tableRow)).flatMap
        Piece.allText = u := by
    intro rows u hrows
    induction hrows with
    | nil => rfl
    | cons hkind hrow _ ih =>
      rw [List.filter_cons_of_pos (p := fun row : Node => row.kind = .tableRow)
        (decide_eq_true hkind), List.map_cons, tableRow, Row.allPieces, List.flatMap_append, ih,
        hcells hrow]
  exact of_element? rfl (hrows h)

end ShowBlock

/-- The nodes are the blocks of a document, which show a text. -/
inductive ShowBlocks : List Node → Text → Prop where
  | nil : ShowBlocks [] []
  | cons {n : Node} {ns : List Node} {t u : Text} (h : ShowBlock n t) (hrest : ShowBlocks ns u) :
      ShowBlocks (n :: ns) (t ++ u)

/-- The elements of a document show the text of its blocks. -/
theorem ShowBlocks.allText_elements {ns : List Node} {t : Text} (h : ShowBlocks ns t) :
    Element.allText (elements { kind := .document, children := ns }) = t := by
  show Element.allText (ns.filterMap element?) = t
  induction h with
  | nil => rfl
  | @cons n ns t u h _ ih =>
    -- a block without an element shows the empty text
    have hcons : (n :: ns).filterMap element? = n.element?.toList ++ ns.filterMap element? := by
      rw [List.filterMap_cons]
      cases n.element? <;> rfl
    rw [hcons, Element.allText_append, ih]
    exact congrArg (· ++ u) h

end Node

end Wordsmith
