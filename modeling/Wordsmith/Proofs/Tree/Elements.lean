import Wordsmith.Proofs.Tree.Items

/-!
# Elements as they are made

However the nodes of a tree are nested, its elements keep to a few rules that the writer takes for
granted: a run without text is code, a link has a target, nothing is underlined, and a cell of a
table holds one paragraph. The elements are those of the blocks that have one, in the order of the
blocks (`Node.elements_isMadeOf`).

* `Run.IsTidy`, `Row.IsMadeOf`, `Element.IsMadeOf` — the rules.
* `isTidy_allRuns` — of runs, from the leaves that they are made of (`allRuns_eq_map_stops`).
* `isMadeOf_of_element?` — of elements, one case for each kind of block.
-/

namespace Wordsmith

/-! ## The rules

A rule is stated of an element together with the node that it is made of, so that the kind of the node
and its children can be spoken of. -/

/-- What is true of the runs of every tree. -/
structure Run.IsTidy (r : Run) : Prop where
  text : r.code = false → r.text ≠ []
  link : r.link ≠ some []
  underlined : r.underlined = false

/-- A row as it is made of a node: each cell holds one paragraph and nothing else, and the row is a
header if the node has children, all of them marked as such. -/
structure Row.IsMadeOf (n : Node) (row : Row) : Prop where
  cells : ∀ c ∈ row.cells, ∃ runs, c.content = [.paragraph runs] ∧ ∀ r ∈ runs, r.IsTidy
  header : row.header = true ↔ n.children ≠ [] ∧ ∀ c ∈ n.children, c.header = true

/-- An element as it is made of a node. A node of kind `text` among the blocks becomes a paragraph,
and a paragraph with nothing but an image in it becomes that image. -/
inductive Element.IsMadeOf (n : Node) : Element → Prop where
  | heading (level : Int) (text : Text) (hkind : n.kind = .heading) :
      IsMadeOf n (.heading level text)
  | paragraph {runs : List Run} (hkind : n.kind = .paragraph ∨ n.kind = .text)
      (hruns : ∀ r ∈ runs, r.IsTidy) : IsMadeOf n (.paragraph runs)
  | quote {runs : List Run} (hkind : n.kind = .quote) (hruns : ∀ r ∈ runs, r.IsTidy) :
      IsMadeOf n (.quote runs)
  | bulletList {items : List ListItem} (hkind : n.kind = .unorderedList)
      (hruns : ∀ item ∈ items, ∀ r ∈ item.runs, r.IsTidy) : IsMadeOf n (.bulletList items)
  | numberedList {items : List ListItem} (hkind : n.kind = .orderedList)
      (hruns : ∀ item ∈ items, ∀ r ∈ item.runs, r.IsTidy) : IsMadeOf n (.numberedList items)
  | codeBlock {language : Option Text} (code : Text) (hkind : n.kind = .codeBlock)
      (hlanguage : language ≠ some []) : IsMadeOf n (.codeBlock language code)
  | table {rows : List Row} (hkind : n.kind = .table)
      (hrows : List.Forall₂ Row.IsMadeOf (n.children.filter fun row => row.kind = .tableRow) rows) :
      IsMadeOf n (.table rows)
  | horizontalRule (hkind : n.kind = .horizontalRule) : IsMadeOf n .horizontalRule
  | image (altText source : Text) (hkind : n.kind = .image ∨ n.kind = .paragraph) :
      IsMadeOf n (.image altText source)

namespace Node

/-! ## Runs

Runs come from texts that stand alone, from labels of items and from inline nodes. The last of these
are the runs of leaves, which are tidy one by one. -/

/-- A text that is not empty, and no mark. -/
theorem isTidy_of_text {t : Text} (h : t ≠ []) : Run.IsTidy { text := t } :=
  ⟨fun _ => h, nofun, rfl⟩

/-- The run of a text, if there is one. -/
theorem isTidy_textRuns (t : Text) : ∀ r ∈ textRuns t, r.IsTidy := by
  unfold textRuns
  split
  · exact nofun
  · rename_i h
    exact List.forall_mem_singleton.mpr (isTidy_of_text (by simpa using h))

/-- A leaf gives a run with text unless it is code, and what stands above it marks the run with
targets that are not empty. -/
theorem Stop.isTidy_run {s : Stop} (h : s.node.givesRun = true) : s.run.IsTidy where
  text hcode := by
    unfold run at hcode ⊢
    unfold givesRun at h
    cases hkind : s.node.kind <;> simp_all [NodeKind.isBreak]
  link := by
    show s.target? ≠ some []
    unfold target?
    rw [ne_eq, Option.bind_eq_some_iff]
    rintro ⟨n, -, hurl⟩
    split at hurl
    · cases hurl
    · rename_i hempty
      exact hempty (List.isEmpty_iff.mpr (Option.some.inj hurl))
  underlined := rfl

/-- The runs of inline nodes are those of their leaves. -/
theorem isTidy_allRuns (ns : List Node) : ∀ r ∈ allRuns ns, r.IsTidy := by
  -- whatever is reached gives a run
  have hgives : ∀ {parent : Option NodeKind} {ns : List Node} {s : Stop},
      inlineWalk.Reaches parent ns s → s.node.givesRun = true := by
    intro parent ns s h
    induction h with
    | here _ hstop => exact hstop
    | down _ _ _ ih => exact ih
  rw [allRuns_eq_map_stops none 0 ns]
  intro r hr
  obtain ⟨s, hs, rfl⟩ := List.mem_map.mp hr
  exact Stop.isTidy_run (hgives (Walk.mem_stops_iff.mp hs))

/-- The runs of a quote. -/
theorem isTidy_quoteRuns (n : Node) : ∀ r ∈ n.quoteRuns, r.IsTidy := by
  unfold quoteRuns
  split
  · exact isTidy_allRuns n.children
  · exact isTidy_textRuns n.text
  · exact nofun

/-- The runs of one child of an item. -/
theorem isTidy_lineRuns (n : Node) : ∀ r ∈ n.lineRuns, r.IsTidy := by
  unfold lineRuns
  split
  · exact isTidy_allRuns n.children
  · split
    · rename_i h
      exact List.forall_mem_singleton.mpr (isTidy_of_text h.2)
    · exact isTidy_allRuns [n]

/-- The label of an item: its box, and what the children give that are no lists. -/
theorem isTidy_labelRuns (n : Node) : ∀ r ∈ n.labelRuns, r.IsTidy := by
  refine List.forall_mem_append.mpr ⟨?_, fun r hr => ?_⟩
  · split
    · refine List.forall_mem_singleton.mpr (isTidy_of_text ?_)
      cases n.checked <;> decide
    · exact nofun
  · obtain ⟨c, -, hr⟩ := List.mem_flatMap.mp hr
    exact isTidy_lineRuns c r hr

/-- The runs of all items of a list. -/
theorem isTidy_listItems (ns : List Node) :
    ∀ item ∈ listItems 0 ns, ∀ r ∈ item.runs, r.IsTidy := by
  intro item hitem
  rw [(items_eq_map_stops ns).1 (some .orderedList) rfl 0 0] at hitem
  obtain ⟨s, -, rfl⟩ := List.mem_map.mp hitem
  exact isTidy_labelRuns s.node

/-! ## Elements

The elements of a document are those of its children, and each child has one at most. -/

/-- A row of a table, whatever stands among its cells. -/
theorem isMadeOf_tableRow (n : Node) : n.tableRow.IsMadeOf n where
  cells := by
    intro c hc
    obtain ⟨source, -, rfl⟩ := List.mem_map.mp hc
    exact ⟨_, rfl, isTidy_allRuns source.children⟩
  header := by
    show (!n.children.isEmpty && n.children.all (·.header)) = true ↔ _
    simp

/-- The element of a block, if there is one, is made of it as it should be. -/
theorem isMadeOf_of_element? {n : Node} {e : Element} (h : n.element? = some e) :
    e.IsMadeOf n := by
  unfold element? at h
  split at h
  case h_2 hkind =>
    -- a paragraph is one of runs, or stands for the image in it
    split at h <;> cases h
    · exact .image _ _ (Or.inr hkind)
    · exact .paragraph (Or.inl hkind) (isTidy_allRuns _)
  case h_3 hkind =>
    split at h <;> cases h
    rename_i htext
    refine .paragraph (Or.inr hkind) (List.forall_mem_singleton.mpr (isTidy_of_text ?_))
    simpa using htext
  all_goals cases h
  case h_1 hkind => exact .heading _ _ hkind
  case h_4 hkind => exact .bulletList hkind (isTidy_listItems _)
  case h_5 hkind => exact .numberedList hkind (isTidy_listItems _)
  case h_6 hkind =>
    refine .codeBlock _ hkind ?_
    split <;> simp_all
  case h_7 hkind =>
    refine .quote hkind fun r hr => ?_
    obtain ⟨c, -, hr⟩ := List.mem_flatMap.mp hr
    exact isTidy_quoteRuns c r hr
  case h_8 hkind =>
    refine .table hkind (List.forall₂_map_right_iff.mpr (List.forall₂_same.mpr ?_))
    exact fun row _ => isMadeOf_tableRow row
  case h_9 hkind => exact .horizontalRule hkind
  case h_10 hkind => exact .image _ _ (Or.inl hkind)

/-- There is an element for the node: its kind is that of a block, and it is not a text without
anything in it. -/
def hasElement (n : Node) : Bool := n.kind.isBlock && !(n.kind = .text && n.text.isEmpty)

/-- Which nodes have an element can be told without making it. -/
theorem isSome_element? (n : Node) : n.element?.isSome = n.hasElement := by
  unfold element? hasElement
  cases n.kind with
  | paragraph => cases soleImage? n.children <;> rfl
  | text => cases n.text <;> rfl
  | _ => rfl

/-- What a partial function makes of a list, element by element. -/
theorem forall₂_filterMap {α β : Type} (f : α → Option β) (xs : List α) :
    List.Forall₂ (fun x y => f x = some y) (xs.filter fun x => (f x).isSome) (xs.filterMap f) := by
  induction xs with
  | nil => exact .nil
  | cons x xs ih =>
    cases hx : f x with
    | none =>
      rw [List.filter_cons_of_neg (by simp [hx]), List.filterMap_cons_none hx]
      exact ih
    | some y =>
      rw [List.filter_cons_of_pos (by simp [hx]), List.filterMap_cons_some hx]
      exact .cons hx ih

/-- The elements of a tree are those of the children that have one, in order and one for each, and
they keep to the rules, however the tree is nested: only runs of code may be without text, no run has
an empty link or a line under it, a cell holds one paragraph and nothing else, a row is a header
exactly if its node has children and all of them are marked, and the language of a code block is not
empty. -/
theorem elements_isMadeOf (document : Node) :
    List.Forall₂ (fun n e => n.element? = some e ∧ e.IsMadeOf n)
      (document.children.filter hasElement) document.elements := by
  have hsources : document.children.filter hasElement
      = document.children.filter fun n => n.element?.isSome :=
    List.filter_congr fun n _ => (isSome_element? n).symm
  rw [hsources]
  exact (forall₂_filterMap element? document.children).imp fun _ _ h =>
    ⟨h, isMadeOf_of_element? h⟩

end Node

end Wordsmith
