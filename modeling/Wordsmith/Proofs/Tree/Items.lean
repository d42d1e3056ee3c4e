import Wordsmith.Proofs.Tree.Inline

/-!
# List items by their paths

A list is flattened while its items are read: an item waits until its own runs are complete, and the
items of the lists in it come after it, one level deeper. Item by item, each is where a walk from
lists to items and from items to lists stops (`listWalk`), and its level counts the lists above it.
Nothing is lost by it: the levels alone tell which item each item stands in (`AreNested`), and so
the tree of the items comes back (`regrow`).

* `element?_list` — a list becomes the items that the walk finds, and these can be grown again.

## From the tree to the items and back

* `items_eq_map_stops` — the items, in order, are where the walk stops, with `Stop.item` for each.
* `length_address` — the way to an item goes through lists and items in turn, so the level can be read
  off its length.
* `areNested` — the levels start at zero, go down by one at a time, and the item that an item stands in
  is the last one before it that is one level higher.
* `foldr_plant`, `regrow_listItems` — planting the items from last to first gives the trees that they
  come from.
-/

namespace Wordsmith.Node

/-! ## The walk

The walk starts outside of a list and looks for lists; in a list it stops at each item and goes on in
it. So the kinds of the parents alternate, and everything else is passed over. -/

/-- The walk from lists to their items, and from items to the lists in them. -/
def listWalk : Walk where
  stopsAt parent n := parent.any (·.isList) && n.kind.isItem
  enters parent n := if parent.any (·.isList) then n.kind.isItem else n.kind.isList

/-- The runs that a child other than a list contributes to its item. -/
def lineRuns (n : Node) : List Run :=
  if n.kind = .paragraph then allRuns n.children
  else if n.kind = .text ∧ n.text ≠ [] then [{ text := n.text }]
  else allRuns [n]

/-- The runs that a child gives, by the three cases that matter. -/
theorem itemRuns_eq_lineRuns (n : Node) : itemRuns n = lineRuns n := by
  have hruns : n.runs = allRuns [n] := by
    rw [allRuns_cons]
    exact (List.append_nil _).symm
  unfold itemRuns lineRuns
  rw [← hruns]
  split
  · rename_i hkind
    rw [if_pos hkind]
  · rename_i hkind
    cases htext : n.text <;> simp [hkind]
  · rename_i hparagraph htext
    rw [if_neg hparagraph, if_neg fun h => htext h.1]

/-- The runs of an item without the lists in it: the box of a task, and what its children give. -/
def labelRuns (n : Node) : List Run :=
  (if n.kind = .taskListItem then [{ text := checkbox n.checked }] else []) ++
    (n.children.filter fun c => !c.kind.isList).flatMap lineRuns

namespace Stop

/-- The number of lists above. -/
def lists (s : Stop) : Nat := s.above.countP (·.kind.isList)

/-- The list item that a stop gives: its level is one less than the number of lists above it. -/
def item (s : Stop) : ListItem where
  runs := s.node.labelRuns
  level := s.lists - 1

/-- One stop is that of an item, the other that of an item in one of the lists in it. -/
def IsParent (p s : Stop) : Prop := ∃ list i, s.address = p.address ++ [list, i]

/-- The list item that a stop gives in a part of a list, where levels count from `base` on. -/
def itemFrom (base : Int) (s : Stop) : ListItem where
  runs := s.node.labelRuns
  level := base + s.lists

/-- A node above a stop counts if it is a list. -/
theorem lists_under (s : Stop) (i : Nat) (n : Node) :
    (s.under i n).lists = s.lists + if n.kind.isList then 1 else 0 :=
  List.countP_cons

/-- Right below the outermost list the levels count from zero. -/
theorem item_under_list {n : Node} (hlist : n.kind.isList = true) (s : Stop) (i : Nat) :
    (s.under i n).item = s.itemFrom 0 := by
  unfold item itemFrom
  rw [lists_under, if_pos hlist]
  congr 1
  push_cast
  omega

/-- A list above puts its items one level deeper. -/
theorem itemFrom_under_list {n : Node} (hlist : n.kind.isList = true) (base : Int) (s : Stop)
    (i : Nat) : (s.under i n).itemFrom base = s.itemFrom (base + 1) := by
  unfold itemFrom
  rw [lists_under, if_pos hlist]
  congr 1
  push_cast
  omega

/-- Any other node above leaves the levels alone. -/
theorem itemFrom_under {n : Node} (hlist : n.kind.isList = false) (base : Int) (s : Stop)
    (i : Nat) : (s.under i n).itemFrom base = s.itemFrom base := by
  unfold itemFrom
  rw [lists_under, hlist]
  rfl

end Stop

/-- No item is a list. -/
theorem not_isList_of_isItem {kind : NodeKind} (h : kind.isItem = true) : kind.isList = false := by
  cases kind <;> first | rfl | exact absurd h (by decide)

/-! ## The items

The two functions of the flattening correspond to the two states of the walk: `listItems` to being in a
list, `nestedItems` to being in an item. They are treated together, by induction on the children. -/

/-- An item comes before the items of the lists in it, and these before the items that follow. -/
theorem listItems_cons (level : Nat) (n : Node) (ns : List Node) :
    listItems level (n :: ns) =
      (if n.kind.isItem then
        { runs := n.labelRuns, level } :: nestedItems (level + 1) n.children else []) ++
        listItems level ns := by
  have hown : ownRuns n.children = (n.children.filter fun c => !c.kind.isList).flatMap lineRuns :=
    List.flatMap_congr fun c _ => itemRuns_eq_lineRuns c
  unfold labelRuns
  rw [← hown]
  obtain ⟨kind, children, text, level', language, url, title, alt, align, header, checked, start⟩ :=
    n
  rw [listItems]
  by_cases hkind : kind.isItem = true
  · rw [if_pos hkind, if_pos hkind]
  · rw [if_neg hkind, if_neg hkind]
    rfl

/-- In an item only the lists count. -/
theorem nestedItems_cons (level : Nat) (n : Node) (ns : List Node) :
    nestedItems level (n :: ns) =
      (if n.kind.isList then listItems level n.children else []) ++ nestedItems level ns := by
  obtain ⟨kind, children, text, level', language, url, title, alt, align, header, checked, start⟩ :=
    n
  rw [nestedItems]
  by_cases hkind : kind.isList = true
  · rw [if_pos hkind, if_pos hkind]
  · rw [if_neg hkind, if_neg hkind]
    rfl

variable {parent : Option NodeKind}

/-- Right in a list the walk stops at the items, and goes on in them. -/
theorem listWalk_in_list (hparent : parent.any (·.isList) = true) (n : Node) :
    listWalk.stopsAt parent n = n.kind.isItem ∧ listWalk.enters parent n = n.kind.isItem := by
  simp [listWalk, hparent]

/-- Outside a list the walk only looks for lists. -/
theorem listWalk_outside_list (hparent : parent.any (·.isList) = false) (n : Node) :
    listWalk.stopsAt parent n = false ∧ listWalk.enters parent n = n.kind.isList := by
  simp [listWalk, hparent]

/-- In a list the walk stops at an item, goes on in it, and goes on behind it. -/
theorem stops_in_list (hparent : parent.any (·.isList) = true) (i : Nat) (n : Node)
    (ns : List Node) : listWalk.stops parent i (n :: ns) =
      (if n.kind.isItem then
        ⟨[i], [], n⟩ :: (listWalk.stops (some n.kind) 0 n.children).map (·.under i n) else []) ++
        listWalk.stops parent (i + 1) ns := by
  rw [Walk.stops, (listWalk_in_list hparent n).1, (listWalk_in_list hparent n).2,
    ← List.append_assoc]
  split <;> rfl

/-- Outside of a list it goes on in lists and behind them. -/
theorem stops_outside_list (hparent : parent.any (·.isList) = false) (i : Nat) (n : Node)
    (ns : List Node) : listWalk.stops parent i (n :: ns) =
      (if n.kind.isList then (listWalk.stops (some n.kind) 0 n.children).map (·.under i n)
        else []) ++ listWalk.stops parent (i + 1) ns := by
  rw [Walk.stops, (listWalk_outside_list hparent n).1, (listWalk_outside_list hparent n).2]
  rfl

/-- The items of a list, and those of the lists in an item, are the ones that the walk finds. -/
theorem items_eq_map_stops (ns : List Node) :
    (∀ parent : Option NodeKind, parent.any (·.isList) = true → ∀ level i : Nat,
      listItems level ns = (listWalk.stops parent i ns).map (Stop.itemFrom level)) ∧
    ∀ parent : Option NodeKind, parent.any (·.isList) = false → ∀ level i : Nat,
      nestedItems (level + 1) ns = (listWalk.stops parent i ns).map (Stop.itemFrom level) := by
  induction ns using children_induction with
  | step ns ih =>
    induction ns with
    | nil =>
      refine ⟨fun parent _ level i => ?_, fun parent _ level i => ?_⟩
      · rw [Walk.stops, listItems, List.map_nil]
      · rw [Walk.stops, nestedItems, List.map_nil]
    | cons n ns ihRest =>
      rw [List.forall_mem_cons] at ih
      have hrest := ihRest ih.2
      refine ⟨fun parent hparent level i => ?_, fun parent hparent level i => ?_⟩
      · rw [listItems_cons, stops_in_list hparent, List.map_append,
          ← hrest.1 parent hparent level (i + 1)]
        congr 1
        split
        · -- an item stands where its list stands, and what is below it one level deeper
          rename_i hitem
          have hlist := not_isList_of_isItem hitem
          rw [ih.1.2 (some n.kind) hlist level 0, List.map_cons, List.map_map]
          refine congrArg₂ List.cons ?_ (List.map_congr_left fun s _ => ?_)
          · exact congrArg (ListItem.mk _) (Int.add_zero _).symm
          · exact (Stop.itemFrom_under hlist level s i).symm
        · rfl
      · -- a list among the children of an item: the walk goes on in it, one level deeper
        rw [nestedItems_cons, stops_outside_list hparent, List.map_append,
          ← hrest.2 parent hparent level (i + 1)]
        congr 1
        split
        · rename_i hlist
          rw [ih.1.1 (some n.kind) hlist (level + 1) 0, List.map_map]
          exact List.map_congr_left fun s _ => (Stop.itemFrom_under_list hlist level s i).symm
        · rfl

/-! ## Levels

An address is the list of places on the way down. Its length is twice the number of lists on the way,
up to the first step, so the level grows with the length. Addresses are ordered as the stops are, and
what lies between an item and one below it in this order lies below that item too. -/

/-- The way to an item goes through lists and items in turn. -/
theorem length_address {ns : List Node} {s : Stop} (h : listWalk.Reaches parent ns s) :
    s.address.length = 2 * s.lists + if parent.any (·.isList) then 1 else 0 := by
  induction h with
  | @here parent ns i n hn hstop =>
    cases hparent : parent.any (·.isList) with
    | true => rfl
    | false =>
      rw [(listWalk_outside_list hparent n).1] at hstop
      exact absurd hstop Bool.false_ne_true
  | @down parent ns i n s hn henters hs ih =>
    rw [Stop.lists_under]
    change s.address.length + 1 = _
    rw [ih, Option.any_some]
    cases hparent : parent.any (·.isList) with
    | true =>
      rw [(listWalk_in_list hparent n).2] at henters
      rw [not_isList_of_isItem henters]
      rfl
    | false =>
      rw [(listWalk_outside_list hparent n).2] at henters
      rw [henters, if_neg Bool.false_ne_true]
      rfl

/-- An item is in the outermost list, or it has a parent. -/
theorem exists_isParent {ns : List Node} {s : Stop} (h : listWalk.Reaches parent ns s) :
    s.lists = (if parent.any (·.isList) then 0 else 1) ∨
      ∃ p, listWalk.Reaches parent ns p ∧ p.IsParent s := by
  induction h with
  | @here parent ns i n hn hstop =>
    cases hparent : parent.any (·.isList) with
    | true => exact Or.inl rfl
    | false =>
      rw [(listWalk_outside_list hparent n).1] at hstop
      exact absurd hstop Bool.false_ne_true
  | @down parent ns i n s hn henters hs ih =>
    -- either the way below has met no list yet, or it has passed an item that is the parent
    rcases ih with hlists | ⟨p, hp, list, k, haddress⟩
    · cases hparent : parent.any (·.isList) with
      | true =>
        -- the item that the walk goes on in is the parent
        rw [(listWalk_in_list hparent n).2] at henters
        have hlength := length_address hs
        rw [Option.any_some, not_isList_of_isItem henters] at hlists hlength
        rw [hlists] at hlength
        obtain ⟨list, k, haddress⟩ := List.length_eq_two.mp hlength
        refine Or.inr ⟨⟨[i], [], n⟩, .here hn ?_, list, k, congrArg (i :: ·) haddress⟩
        rw [(listWalk_in_list hparent n).1]
        exact henters
      | false =>
        rw [(listWalk_outside_list hparent n).2] at henters
        rw [Option.any_some, henters] at hlists
        rw [Stop.lists_under, hlists, henters]
        exact Or.inl rfl
    · exact Or.inr ⟨p.under i n, .down hn henters hp, list, k, congrArg (i :: ·) haddress⟩

/-- The item with number `k` stands in the last item before it that is one level higher: all items
between the two are as deep as it is, at least. -/
def HasParentBefore (stops : List Stop) (k : Nat) (s : Stop) : Prop :=
  ∃ (m : Nat) (p : Stop), stops[m]? = some p ∧ p.IsParent s ∧ m < k ∧
    p.item.level + 1 = s.item.level ∧
    ∀ (j : Nat) (t : Stop), stops[j]? = some t → m < j → j < k → s.item.level ≤ t.item.level

/-- Stops in reading order whose levels tell how their items are nested. -/
structure AreNested (stops : List Stop) : Prop where
  first : ∀ s, stops[0]? = some s → s.item.level = 0
  /-- An item is at most one level deeper than the one before it. -/
  step : ∀ (k : Nat) (s t : Stop), stops[k]? = some s → stops[k + 1]? = some t →
    t.item.level ≤ s.item.level + 1
  /-- An item that is not at the top stands in another one. -/
  parent : ∀ (k : Nat) (s : Stop), stops[k]? = some s → s.item.level ≠ 0 →
    HasParentBefore stops k s

/-- An item that is not at the top has its parent before it, and everything between the two is at least
as deep. -/
theorem hasParentBefore {l : Node} {stops : List Stop}
    (hstops : listWalk.AreStops none [l] stops) {k : Nat} {s : Stop} (hs : stops[k]? = some s)
    (hlevel : s.item.level ≠ 0) : HasParentBefore stops k s := by
  have hlength : ∀ {j : Nat} {t : Stop}, stops[j]? = some t → t.address.length = 2 * t.lists := by
    intro j t ht
    exact length_address ((hstops.complete t).mp (List.mem_of_getElem? ht))
  have hreaches := (hstops.complete s).mp (List.mem_of_getElem? hs)
  rcases exists_isParent hreaches with hlists | ⟨p, hp, list, i, haddress⟩
  · refine absurd ?_ hlevel
    show (s.lists : Int) - 1 = 0
    rw [hlists]
    rfl
  · obtain ⟨m, hm⟩ := List.getElem?_of_mem ((hstops.complete p).mpr hp)
    -- the parent comes before, since its address is the beginning of that of the item
    have hlt : p.address < s.address := haddress ▸ Walk.lt_append (List.cons_ne_nil list [i])
    have hsLength := hlength hs
    have hpLength := hlength hm
    rw [haddress, List.length_append] at hsLength
    change p.address.length + 2 = 2 * s.lists at hsLength
    refine ⟨m, p, hm, ⟨list, i, haddress⟩, hstops.index_lt hm hs hlt, ?_, ?_⟩
    · show (p.lists : Int) - 1 + 1 = s.lists - 1
      omega
    · intro j t ht hmj hjk
      -- what is between the two is below the parent
      obtain ⟨d, hd, htAddress⟩ := Walk.exists_append_of_between (hstops.address_lt hm ht hmj)
        (haddress ▸ hstops.address_lt ht hs hjk)
      have htLength := hlength ht
      rw [htAddress, List.length_append] at htLength
      have hpos := List.length_pos_iff.mpr hd
      show (s.lists : Int) - 1 ≤ t.lists - 1
      omega

/-- The levels of the stops tell how the items are nested. -/
theorem areNested {l : Node} {stops : List Stop} (hstops : listWalk.AreStops none [l] stops) :
    AreNested stops where
  first := by
    intro s hs
    by_contra hlevel
    obtain ⟨m, p, -, -, hm, -⟩ := hasParentBefore hstops hs hlevel
    exact absurd hm (Nat.not_lt_zero m)
  step := by
    intro k s t hs ht
    have hnonneg : 0 ≤ s.item.level + 1 := by
      show 0 ≤ (s.lists : Int) - 1 + 1
      omega
    by_cases hlevel : t.item.level = 0
    · rw [hlevel]
      exact hnonneg
    · obtain ⟨m, p, hm, -, hlt, hp, hbetween⟩ := hasParentBefore hstops ht hlevel
      -- the item before is the parent, or it comes after the parent and is as deep at least
      rcases Nat.lt_succ_iff_lt_or_eq.mp hlt with hmk | rfl
      · have hle := hbetween k s hs hmk (Nat.lt_succ_self k)
        omega
      · obtain rfl : s = p := Option.some.inj (hs.symm.trans hm)
        exact Int.le_of_eq hp.symm
  parent _ _ := hasParentBefore hstops

/-! ## The tree of the items

Going through the items from the last to the first, each item takes in the trees that are deeper than
it. What it takes in are the items of the lists in it, since the first that does not stand in it is no
deeper (`EndsAt`). -/

/-- An item with the items of all lists in it. -/
inductive ItemTree where
  | mk (runs : List Run) (below : List ItemTree)

mutual

/-- The items of a list, each with what stands in it. -/
def itemTrees : List Node → List ItemTree
  | [] => []
  | n :: ns =>
    if n.kind.isItem then ⟨n.labelRuns, treesBelow n.children⟩ :: itemTrees ns else itemTrees ns
termination_by ns => sizeOf ns
decreasing_by all_goals have := sizeOf_children_lt n; simp only [List.cons.sizeOf_spec]; omega

/-- The items of the lists among the children of an item. -/
def treesBelow : List Node → List ItemTree
  | [] => []
  | n :: ns => if n.kind.isList then itemTrees n.children ++ treesBelow ns else treesBelow ns
termination_by ns => sizeOf ns
decreasing_by all_goals have := sizeOf_children_lt n; simp only [List.cons.sizeOf_spec]; omega

end

/-- Puts an item in front of trees with their levels. It takes in those that are deeper, up to the
first that is not. -/
def plant (item : ListItem) (later : List (Int × ItemTree)) : List (Int × ItemTree) :=
  (item.level, ⟨item.runs, (later.takeWhile fun t => item.level < t.1).map (·.2)⟩) ::
    later.dropWhile fun t => item.level < t.1

/-- The trees that the items come from, by their levels alone. -/
def regrow (items : List ListItem) : List ItemTree := (items.foldr plant []).map (·.2)

/-- The trees do not go on below a level. -/
def EndsAt (level : Int) (trees : List (Int × ItemTree)) : Prop := ∀ t ∈ trees.head?, t.1 ≤ level

/-- Trees of this level in front end at it as well. -/
theorem EndsAt.append {level : Int} {later : List (Int × ItemTree)} (h : EndsAt level later)
    (trees : List ItemTree) : EndsAt level (trees.map (level, ·) ++ later) := by
  cases trees with
  | nil => exact h
  | cons t trees =>
    intro u hu
    obtain rfl := Option.some.inj hu
    exact Int.le_refl level

/-- An item takes in the deeper trees in front, and nothing behind them. -/
theorem plant_append {item : ListItem} {level : Int} (hlt : item.level < level)
    (trees : List ItemTree) {later : List (Int × ItemTree)} (h : EndsAt item.level later) :
    plant item (trees.map (level, ·) ++ later) = (item.level, ⟨item.runs, trees⟩) :: later := by
  have hdeeper : ∀ t ∈ trees.map (level, ·), decide (item.level < t.1) = true := by
    intro t ht
    obtain ⟨tree, -, rfl⟩ := List.mem_map.mp ht
    exact decide_eq_true hlt
  have hstop : ∀ t ∈ later.head?, ¬ decide (item.level < t.1) = true := by
    intro t ht
    rw [decide_eq_true_iff]
    exact Int.not_lt.mpr (h t ht)
  -- the first tree that is no deeper stops it
  have htake : later.takeWhile (fun t => item.level < t.1) = [] := by
    cases later with
    | nil => rfl
    | cons t later => exact List.takeWhile_cons_of_neg (hstop t rfl)
  have hdrop : later.dropWhile (fun t => item.level < t.1) = later := by
    cases later with
    | nil => rfl
    | cons t later => exact List.dropWhile_cons_of_neg (hstop t rfl)
  unfold plant
  rw [List.takeWhile_append_of_pos hdeeper, List.dropWhile_append_of_pos hdeeper, htake, hdrop,
    List.append_nil, List.map_map]
  have hid : ((·.2) ∘ (level, ·) : ItemTree → ItemTree) = id := rfl
  rw [hid, List.map_id]

/-- Planting the items of a list, last to first, gives their trees. -/
theorem foldr_plant (ns : List Node) :
    (∀ (level : Nat) (later : List (Int × ItemTree)), EndsAt level later →
      (listItems level ns).foldr plant later = (itemTrees ns).map ((level : Int), ·) ++ later) ∧
    ∀ (level : Nat) (later : List (Int × ItemTree)), EndsAt level later →
      (nestedItems level ns).foldr plant later =
        (treesBelow ns).map ((level : Int), ·) ++ later := by
  induction ns using children_induction with
  | step ns ih =>
    induction ns with
    | nil =>
      refine ⟨fun level later _ => ?_, fun level later _ => ?_⟩
      · rw [listItems, itemTrees]
        rfl
      · rw [nestedItems, treesBelow]
        rfl
    | cons n ns ihRest =>
      rw [List.forall_mem_cons] at ih
      have hrest := ihRest ih.2
      refine ⟨fun level later hlater => ?_, fun level later hlater => ?_⟩
      · rw [listItems_cons, itemTrees, List.foldr_append, hrest.1 level later hlater]
        split
        · -- what follows the item ends at its level, so the items in it are planted in front of that
          have hpending := hlater.append (itemTrees ns)
          have hdeeper : EndsAt ((level + 1 : Nat) : Int)
              ((itemTrees ns).map ((level : Int), ·) ++ later) := by
            intro t ht
            have := hpending t ht
            omega
          rw [List.foldr_cons, ih.1.2 (level + 1) _ hdeeper, plant_append _ _ hpending]
          · rfl
          · show (level : Int) < ((level + 1 : Nat) : Int)
            omega
        · rfl
      · rw [nestedItems_cons, treesBelow, List.foldr_append, hrest.2 level later hlater]
        split
        · rw [ih.1.1 level _ (hlater.append _), List.map_append, List.append_assoc]
        · rfl

/-- A flattened list gives its trees back. -/
theorem regrow_listItems (ns : List Node) : regrow (listItems 0 ns) = itemTrees ns := by
  have hplant := (foldr_plant ns).1 0 [] nofun
  unfold regrow
  rw [hplant, List.append_nil, List.map_map]
  exact List.map_id _

/-- A list becomes one item for each item in it, in reading order, with its own runs and the number
of the lists around its own. The levels tell what each item stands in, so the trees of the items
come back. -/
theorem element?_list (l : Node) (hlist : l.kind.isList = true) :
    ∃ stops, listWalk.AreStops none [l] stops ∧
      l.element? = some (if l.kind = .orderedList then .numberedList (stops.map Stop.item)
        else .bulletList (stops.map Stop.item)) ∧
      AreNested stops ∧ regrow (stops.map Stop.item) = itemTrees l.children := by
  have hstops := listWalk.areStops none [l]
  -- the list itself is the one node of the outermost level
  have hitems : (listWalk.stops none 0 [l]).map Stop.item = listItems 0 l.children := by
    rw [stops_outside_list rfl, if_pos hlist, Walk.stops, List.append_nil, List.map_map,
      (items_eq_map_stops l.children).1 (some l.kind) hlist 0 0]
    exact List.map_congr_left fun s _ => Stop.item_under_list hlist s 0
  refine ⟨_, hstops, ?_, areNested hstops, ?_⟩
  · rw [hitems]
    unfold element?
    cases hkind : l.kind with
    | orderedList => rfl
    | unorderedList => rfl
    | _ => rw [hkind] at hlist; exact absurd hlist (by decide)
  · rw [hitems]
    exact regrow_listItems l.children

/-- A task with two lists in it and a text after the first of them, a list right in a list, what is
no item, and a text that shows only its children. -/
def taskList : Node :=
  { kind := .orderedList
    children :=
      [{ kind := .taskListItem, checked := true
         children :=
          [{ kind := .paragraph
             children := [ofText "a", { kind := .bold, children := [ofText "b"] }] },
            { kind := .unorderedList
              children := [{ kind := .listItem, children := [ofText "c"] },
                { kind := .orderedList, children := [{ kind := .listItem }] }] },
            ofText "d",
            { kind := .orderedList
              children := [{ kind := .listItem
                             children := [{ kind := .unorderedList
                                            children := [{ kind := .listItem }] }] }] }] },
        { kind := .paragraph, children := [ofText "x"] },
        { kind := .listItem, children := [{ kind := .text, children := [ofText "e"] }] }] }

theorem element?_list_taskList :
    taskList.kind.isList = true ∧ ∃ stops, listWalk.AreStops none [taskList] stops ∧
      taskList.element? = some (.numberedList (stops.map Stop.item)) ∧ AreNested stops ∧
      stops.map Stop.item =
        [{ runs := [{ text := "☑ " }, { text := "a" }, { text := "b", bold := true },
            { text := "d" }] },
          { runs := [{ text := "c" }], level := 1 }, { level := 1 }, { level := 2 },
          { runs := [{ text := "e" }] }] ∧
      regrow (stops.map Stop.item) =
        [⟨[{ text := "☑ " }, { text := "a" }, { text := "b", bold := true }, { text := "d" }],
            [⟨[{ text := "c" }], []⟩, ⟨[], [⟨[], []⟩]⟩]⟩,
          ⟨[{ text := "e" }], []⟩] := by
  obtain ⟨stops, hstops, helement, hnested, -⟩ := element?_list taskList rfl
  have hitems : listItems 0 taskList.children = stops.map Stop.item :=
    Element.numberedList.inj (Option.some.inj helement)
  have hlist : listItems 0 taskList.children =
      [{ runs := [{ text := "☑ " }, { text := "a" }, { text := "b", bold := true },
          { text := "d" }] },
        { runs := [{ text := "c" }], level := 1 }, { level := 1 }, { level := 2 },
        { runs := [{ text := "e" }] }] := by
    simp only [taskList, listItems_cons, nestedItems_cons, listItems, nestedItems]
    rfl
  refine ⟨rfl, stops, hstops, helement, hnested, hitems.symm.trans hlist, ?_⟩
  rw [← hitems, hlist]
  rfl

end Wordsmith.Node
