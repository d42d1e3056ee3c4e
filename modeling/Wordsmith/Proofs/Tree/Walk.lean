import Mathlib.Data.List.Basic
import Mathlib.Data.List.Pairwise
import Wordsmith.Tree.Node

/-!
# Walks through a tree

A walk goes through a sequence of nodes from left to right, stops at some of them and goes on below
some of them. Where it stops is said without going anywhere: `Walk.Reaches` derives each stop from
the numbers of the children that lead to it. The order of these addresses is reading order, in which
a node comes before the nodes below it, and these before the next node.

* `Walk.areStops` — going through the nodes finds every stop once, in reading order.

* `Walk.mem_stops_iff` — the stops that are found are those that are reached.
* `Walk.pairwise_stops` — and they are found in the order of their addresses.
* `children_induction` — the induction for sequences of nodes, down the tree.
-/

namespace Wordsmith.Node

/-! ## Walks and stops

A walk is two questions about a node. Both may depend on the kind of its parent, as for items,
which count only directly below lists. -/

/-- A way to go through a tree. What becomes of a node depends on the node and on the kind of the
node above it, if there is one. -/
structure Walk where
  /-- The walk stops at the node. -/
  stopsAt : Option NodeKind → Node → Bool
  /-- The walk goes on with the children of the node. -/
  enters : Option NodeKind → Node → Bool

/-- A node that a walk stops at, and the way to it. -/
structure Stop where
  /-- The number of each node on the way among its neighbours, and that of the node itself. -/
  address : List Nat
  /-- The nodes on the way, the outermost first. -/
  above : List Node
  node : Node

/-- A stop below the node `n`, seen from the sequence in which `n` is the node with number `i`. -/
def Stop.under (s : Stop) (i : Nat) (n : Node) : Stop := ⟨i :: s.address, n :: s.above, s.node⟩

/-- The children of a node are smaller than the node. -/
theorem sizeOf_children_lt (n : Node) : sizeOf n.children < sizeOf n := by
  cases n
  simp +arith

/-- What holds of a sequence of nodes if it holds of the children of each, holds of all
sequences. -/
@[elab_as_elim]
theorem children_induction {motive : List Node → Prop}
    (step : ∀ ns, (∀ n ∈ ns, motive n.children) → motive ns) (ns : List Node) : motive ns :=
  step ns fun n _hn => children_induction step n.children
termination_by sizeOf ns
decreasing_by
  have := List.sizeOf_lt_of_mem _hn
  have := sizeOf_children_lt n
  omega

namespace Walk

variable (w : Walk)

/-- The walk comes to the stop on its way through a sequence of nodes. -/
inductive Reaches : Option NodeKind → List Node → Stop → Prop where
  | here {parent : Option NodeKind} {ns : List Node} {i : Nat} {n : Node} (hn : ns[i]? = some n)
      (hstop : w.stopsAt parent n = true) : Reaches parent ns ⟨[i], [], n⟩
  | down {parent : Option NodeKind} {ns : List Node} {i : Nat} {n : Node} {s : Stop}
      (hn : ns[i]? = some n) (henters : w.enters parent n = true)
      (hs : Reaches (some n.kind) n.children s) : Reaches parent ns (s.under i n)

/-- The stops are those that the walk comes to, each of them once, in reading order. -/
structure AreStops (parent : Option NodeKind) (ns : List Node) (stops : List Stop) : Prop where
  sorted : (stops.map (·.address)).Pairwise (· < ·)
  complete : ∀ s, s ∈ stops ↔ w.Reaches parent ns s

/-- The stops in a sequence of nodes whose numbers count from `i` on. -/
def stops (parent : Option NodeKind) (i : Nat) : List Node → List Stop
  | [] => []
  | n :: ns =>
    (if w.stopsAt parent n then [⟨[i], [], n⟩] else []) ++
      ((if w.enters parent n then (stops (some n.kind) 0 n.children).map (·.under i n) else []) ++
        stops parent (i + 1) ns)
termination_by ns => sizeOf ns
decreasing_by
  · have := sizeOf_children_lt n
    simp only [List.cons.sizeOf_spec]
    omega
  · simp +arith

/-! ## Completeness

`stops` is a function and `Reaches` a relation, which agree: the first finds all that the second
derives, and nothing else. -/

variable {w} {parent : Option NodeKind}

/-- A stop is a node of the sequence, or it is below one that the walk enters. -/
theorem mem_stops {i : Nat} {ns : List Node} {s : Stop} :
    s ∈ w.stops parent i ns ↔ ∃ k n, ns[k]? = some n ∧
      (w.stopsAt parent n = true ∧ s = ⟨[i + k], [], n⟩ ∨
        w.enters parent n = true ∧ ∃ t ∈ w.stops (some n.kind) 0 n.children,
          s = t.under (i + k) n) := by
  induction ns generalizing i with
  | nil => simp [stops]
  | cons n ns ih =>
    rw [stops, List.mem_append, List.mem_append, ih]
    constructor
    · -- a stop of the walk is the first node, or below it, or further on
      rintro (hhere | hbelow | ⟨k, m, hm, h⟩)
      · obtain ⟨hstop, hs⟩ := List.mem_ite_nil_right.mp hhere
        exact ⟨0, n, rfl, Or.inl ⟨hstop, List.mem_singleton.mp hs⟩⟩
      · obtain ⟨henters, hs⟩ := List.mem_ite_nil_right.mp hbelow
        obtain ⟨t, ht, rfl⟩ := List.mem_map.mp hs
        exact ⟨0, n, rfl, Or.inr ⟨henters, t, ht, rfl⟩⟩
      · -- further on the numbers start at one more
        refine ⟨k + 1, m, hm, ?_⟩
        rw [Nat.add_right_comm, Nat.add_assoc] at h
        exact h
    · -- and back: the node of a stop is the first one or one of the others
      rintro ⟨k, m, hm, h⟩
      cases k with
      | zero =>
        obtain rfl : n = m := Option.some.inj hm
        rcases h with ⟨hstop, rfl⟩ | ⟨henters, t, ht, rfl⟩
        · exact Or.inl (List.mem_ite_nil_right.mpr ⟨hstop, List.mem_singleton_self _⟩)
        · exact Or.inr (Or.inl
            (List.mem_ite_nil_right.mpr ⟨henters, List.mem_map_of_mem (f := (·.under i n)) ht⟩))
      | succ k =>
        refine Or.inr (Or.inr ⟨k, m, hm, ?_⟩)
        rw [Nat.add_right_comm, Nat.add_assoc]
        exact h

/-- A stop is found if and only if the walk comes to it. -/
theorem mem_stops_iff {ns : List Node} {s : Stop} :
    s ∈ w.stops parent 0 ns ↔ w.Reaches parent ns s := by
  constructor
  · -- down the tree: the stops below a node are those that are reached below it
    intro hs
    induction ns using children_induction generalizing parent s with
    | step ns ih =>
      obtain ⟨k, n, hn, h⟩ := mem_stops.mp hs
      rw [Nat.zero_add] at h
      rcases h with ⟨hstop, rfl⟩ | ⟨henters, t, ht, rfl⟩
      · exact .here hn hstop
      · exact .down hn henters (ih n (List.mem_of_getElem? hn) ht)
  · intro h
    induction h with
    | here hn hstop => exact mem_stops.mpr ⟨_, _, hn, Or.inl ⟨hstop, by rw [Nat.zero_add]⟩⟩
    | down hn henters _ ih =>
      exact mem_stops.mpr ⟨_, _, hn, Or.inr ⟨henters, _, ih, by rw [Nat.zero_add]⟩⟩

/-! ## Reading order

Addresses are compared like words in a dictionary. The number of a node comes first in all addresses
below it, so neighbours keep what is below them apart. -/

/-- The address of a stop starts with the number of a node of the sequence. -/
theorem exists_address_of_mem_stops {i : Nat} {ns : List Node} {s : Stop}
    (hs : s ∈ w.stops parent i ns) : ∃ k rest, s.address = (i + k) :: rest := by
  obtain ⟨k, n, -, ⟨-, rfl⟩ | ⟨-, t, -, rfl⟩⟩ := mem_stops.mp hs
  · exact ⟨k, [], rfl⟩
  · exact ⟨k, t.address, rfl⟩

/-- Stops are found in reading order. -/
theorem pairwise_stops (i : Nat) (ns : List Node) :
    (w.stops parent i ns).Pairwise fun s t => s.address < t.address := by
  induction ns using children_induction generalizing parent i with
  | step ns ih =>
    induction ns generalizing i with
    | nil => simp [stops]
    | cons n ns ihRest =>
      rw [List.forall_mem_cons] at ih
      -- the next nodes have greater numbers
      have hlater : ∀ t ∈ w.stops parent (i + 1) ns, ∃ k rest, t.address = k :: rest ∧ i < k := by
        intro t ht
        obtain ⟨k, rest, haddress⟩ := exists_address_of_mem_stops ht
        exact ⟨i + 1 + k, rest, haddress, by omega⟩
      rw [stops, List.pairwise_append, List.pairwise_append]
      refine ⟨?_, ⟨?_, ihRest ih.2 (i + 1), ?_⟩, ?_⟩
      · split
        · exact List.pairwise_singleton _ _
        · exact .nil
      · split
        · rw [List.pairwise_map]
          exact (ih.1 0).imp fun h => List.cons_lt_cons_iff.mpr (Or.inr ⟨rfl, h⟩)
        · exact .nil
      · -- what is below a node comes before the next node
        intro s hs t ht
        obtain ⟨-, hs⟩ := List.mem_ite_nil_right.mp hs
        obtain ⟨s, -, rfl⟩ := List.mem_map.mp hs
        obtain ⟨k, rest, haddress, hlt⟩ := hlater t ht
        rw [haddress]
        exact List.cons_lt_cons_iff.mpr (Or.inl hlt)
      · intro s hs t ht
        obtain ⟨-, hs⟩ := List.mem_ite_nil_right.mp hs
        rw [List.mem_singleton.mp hs]
        rcases List.mem_append.mp ht with ht | ht
        · obtain ⟨-, ht⟩ := List.mem_ite_nil_right.mp ht
          obtain ⟨u, hu, rfl⟩ := List.mem_map.mp ht
          obtain ⟨k, rest, haddress⟩ := exists_address_of_mem_stops hu
          -- the address of the node is where those below it begin
          refine List.cons_lt_cons_iff.mpr (Or.inr ⟨rfl, ?_⟩)
          rw [haddress]
          exact List.nil_lt_cons _ _
        · obtain ⟨k, rest, haddress, hlt⟩ := hlater t ht
          rw [haddress]
          exact List.cons_lt_cons_iff.mpr (Or.inl hlt)

variable (w parent) in
/-- Going through the nodes finds every stop once, in reading order. -/
theorem areStops (ns : List Node) : w.AreStops parent ns (w.stops parent 0 ns) where
  sorted := List.pairwise_map.mpr (pairwise_stops 0 ns)
  complete _ := mem_stops_iff

/-! ## Reading order from the addresses

The other way round: places in the list of stops are compared as their addresses are. -/

namespace AreStops

variable {ns : List Node} {stops : List Stop} {s t : Stop}

/-- A stop that comes earlier in the list has the smaller address. -/
theorem address_lt (h : w.AreStops parent ns stops) {i j : Nat} (hs : stops[i]? = some s)
    (ht : stops[j]? = some t) (hlt : i < j) : s.address < t.address := by
  obtain ⟨hi, rfl⟩ := List.getElem?_eq_some_iff.mp hs
  obtain ⟨hj, rfl⟩ := List.getElem?_eq_some_iff.mp ht
  exact List.pairwise_iff_getElem.mp (List.pairwise_map.mp h.sorted) i j hi hj hlt

/-- A stop with the smaller address comes earlier in the list. -/
theorem index_lt (h : w.AreStops parent ns stops) {i j : Nat} (hs : stops[i]? = some s)
    (ht : stops[j]? = some t) (hlt : s.address < t.address) : i < j := by
  rcases Nat.lt_trichotomy i j with hij | rfl | hji
  · exact hij
  · obtain rfl : s = t := Option.some.inj (hs.symm.trans ht)
    exact absurd hlt (List.lt_irrefl _)
  · exact absurd hlt (List.lt_asymm (h.address_lt ht hs hji))

end AreStops

/-- A node comes before those below it. -/
theorem lt_append {a b : List Nat} (hb : b ≠ []) : a < a ++ b := by
  induction a with
  | nil =>
    obtain ⟨n, b, rfl⟩ := List.exists_cons_of_ne_nil hb
    exact List.nil_lt_cons n b
  | cons n a ih => exact List.cons_lt_cons_iff.mpr (Or.inr ⟨rfl, ih⟩)

/-- What comes between a node and one below it in reading order is below the node, too. -/
theorem exists_append_of_between {a b c : List Nat} (hac : a < c) (hcb : c < a ++ b) :
    ∃ d ≠ [], c = a ++ d := by
  -- along the address of the upper node, which the one between has to share
  induction a generalizing c with
  | nil => exact ⟨c, fun hc => List.not_lt_nil _ (hc ▸ hac), rfl⟩
  | cons n a ih =>
    cases c with
    | nil => exact absurd hac (List.not_lt_nil _)
    | cons m c =>
      rw [List.cons_append] at hcb
      rcases List.cons_lt_cons_iff.mp hac with hlt | ⟨rfl, hrest⟩
      · rcases List.cons_lt_cons_iff.mp hcb with hgt | ⟨rfl, -⟩
        · exact absurd hlt (Nat.lt_asymm hgt)
        · exact absurd hlt (Nat.lt_irrefl _)
      · rcases List.cons_lt_cons_iff.mp hcb with hgt | ⟨-, hcb⟩
        · exact absurd hgt (Nat.lt_irrefl _)
        · obtain ⟨d, hd, rfl⟩ := ih hrest hcb
          exact ⟨d, hd, rfl⟩

end Walk

end Wordsmith.Node
