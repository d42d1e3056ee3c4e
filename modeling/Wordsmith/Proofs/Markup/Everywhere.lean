import Wordsmith.Proofs.Markup.Select

/-!
# What holds of every tag

A property of tags and their attributes that holds everywhere in a piece of markup holds of every
element that is found in it. Emitters put sequences of markup together, so the property is stated of
sequences; a tag that cannot have it is not found.

* `Markup.Everywhere P`, `Markup.AllEverywhere P` — the property `P` holds of each tag with its
  attributes.
* `AllEverywhere.of_mem_find` — so it holds of what is found.
* `AllEverywhere.find_eq_nil`, `AllEverywhere.pick_eq_none` — a tag without the property is neither
  found below nor among the children.
-/

namespace Wordsmith.Markup

/-- Every tag in the markup, with its attributes, satisfies `P`. -/
inductive Everywhere (P : String → List Attribute → Prop) : Markup → Prop where
  | text (t : Text) : Everywhere P (.text t)
  | empty {tag : String} {attributes : List Attribute} (h : P tag attributes) :
      Everywhere P (.empty tag attributes)
  | element {tag : String} {attributes : List Attribute} {children : List Markup}
      (h : P tag attributes) (hchildren : ∀ m ∈ children, Everywhere P m) :
      Everywhere P (.element tag attributes children)

/-- Every tag in a sequence of markup satisfies `P`. -/
def AllEverywhere (P : String → List Attribute → Prop) (ms : List Markup) : Prop :=
  ∀ m ∈ ms, Everywhere P m

variable {P Q : String → List Attribute → Prop} {tag : String} {attributes : List Attribute}
  {m : Markup} {ms ns : List Markup}

/-! ## Computing with the property

The `simp` lemmas take a sequence apart as an emitter put it together, down to single tags, where `P`
is decided. -/

@[simp] theorem everywhere_text (t : Text) : Everywhere P (.text t) := .text t

@[simp] theorem everywhere_empty : Everywhere P (.empty tag attributes) ↔ P tag attributes :=
  ⟨fun h => by cases h; assumption, .empty⟩

@[simp] theorem everywhere_element :
    Everywhere P (.element tag attributes ms) ↔ P tag attributes ∧ AllEverywhere P ms :=
  ⟨fun h => by cases h; exact ⟨‹_›, ‹_›⟩, fun h => .element h.1 h.2⟩

@[simp] theorem everywhere_value {t : Text} :
    Everywhere P (.value tag t) ↔ P tag [⟨"w:val", t⟩] :=
  everywhere_empty

@[simp] theorem allEverywhere_nil : AllEverywhere P [] := nofun

@[simp] theorem allEverywhere_cons :
    AllEverywhere P (m :: ms) ↔ Everywhere P m ∧ AllEverywhere P ms :=
  List.forall_mem_cons

/-- A single piece of markup as a sequence. -/
theorem Everywhere.singleton (h : Everywhere P m) : AllEverywhere P [m] :=
  allEverywhere_cons.mpr ⟨h, allEverywhere_nil⟩

@[simp] theorem allEverywhere_append :
    AllEverywhere P (ms ++ ns) ↔ AllEverywhere P ms ∧ AllEverywhere P ns :=
  List.forall_mem_append

/-- Mapped markup is looked at item by item. -/
theorem allEverywhere_map {α : Type} {f : α → Markup} {xs : List α} :
    AllEverywhere P (xs.map f) ↔ ∀ x ∈ xs, Everywhere P (f x) :=
  List.forall_mem_map

/-- Joined sequences are looked at one by one. -/
theorem allEverywhere_flatMap {α : Type} {f : α → List Markup} {xs : List α} :
    AllEverywhere P (xs.flatMap f) ↔ ∀ x ∈ xs, AllEverywhere P (f x) := by
  unfold AllEverywhere
  simp only [List.mem_flatMap]
  exact ⟨fun h x hx m hm => h m ⟨x, hx, hm⟩, fun h m ⟨x, hx, hm⟩ => h x hx m hm⟩

/-- Copies are as good as what they are copies of. -/
theorem allEverywhere_replicate (n : Nat) (h : Everywhere P m) :
    AllEverywhere P (List.replicate n m) := by
  intro m' hm'
  rw [List.eq_of_mem_replicate hm']
  exact h

/-- Markup that may be left out has the property if it has it when it is written. -/
theorem allEverywhere_if {b : Prop} [Decidable b] (h : AllEverywhere P ms) :
    AllEverywhere P (if b then ms else []) := by
  split
  · exact h
  · exact allEverywhere_nil

/-- A weaker property holds as well. -/
theorem Everywhere.mono (h : Everywhere P m) (hPQ : ∀ tag as, P tag as → Q tag as) :
    Everywhere Q m := by
  induction h with
  | text t => exact .text t
  | empty h => exact .empty (hPQ _ _ h)
  | element h _ ih => exact .element (hPQ _ _ h) ih

/-- And so in a sequence. -/
theorem AllEverywhere.mono (h : AllEverywhere P ms) (hPQ : ∀ tag as, P tag as → Q tag as) :
    AllEverywhere Q ms :=
  fun m hm => (h m hm).mono hPQ

/-! ## Elements that are found

What is found under a tag are elements of that tag with their attributes, at any depth. The property
was required at any depth, so it holds of them. -/

/-- An element that is found is a tag of the markup with its attributes, and so has the property. -/
theorem Everywhere.of_mem_find (h : Everywhere P m) {x : Xml} (hx : x ∈ find tag [m]) :
    ∃ attributes ms, P tag attributes ∧ x = node tag attributes ms := by
  induction h with
  | text t =>
    rw [find_text] at hx
    exact absurd hx List.not_mem_nil
  | @empty t attributes h =>
    by_cases ht : t = tag
    · subst ht
      rw [find_empty_self, List.mem_singleton] at hx
      exact ⟨attributes, [], h, hx⟩
    · rw [find_empty_of_ne ht] at hx
      exact absurd hx List.not_mem_nil
  | @element t attributes children h _ ih =>
    -- below the element, by induction on the children
    have hchildren : x ∈ find tag children → ∃ attributes ms, P tag attributes ∧
        x = node tag attributes ms := by
      intro hmem
      rw [← List.flatMap_singleton' children, find_flatMap] at hmem
      obtain ⟨n, hn, hxn⟩ := List.mem_flatMap.mp hmem
      exact ih n hn hxn
    by_cases ht : t = tag
    · subst ht
      rw [find_element_self] at hx
      rcases List.mem_cons.mp hx with rfl | hmem
      · exact ⟨attributes, children, h, rfl⟩
      · exact hchildren hmem
    · rw [find_element_of_ne ht] at hx
      exact hchildren hx

/-- An element that is found in a sequence of markup has the property that its tags have. -/
theorem AllEverywhere.of_mem_find (h : AllEverywhere P ms) {x : Xml} (hx : x ∈ find tag ms) :
    ∃ attributes ms, P tag attributes ∧ x = node tag attributes ms := by
  rw [← List.flatMap_singleton' ms, find_flatMap] at hx
  obtain ⟨m, hm, hxm⟩ := List.mem_flatMap.mp hx
  exact (h m hm).of_mem_find hxm

/-- A tag that cannot have the property is not found. -/
theorem AllEverywhere.find_eq_nil (h : AllEverywhere P ms) (hP : ∀ as, ¬P tag as) :
    find tag ms = [] := by
  refine List.eq_nil_iff_forall_not_mem.mpr fun x hx => ?_
  obtain ⟨as, -, has, -⟩ := h.of_mem_find hx
  exact hP as has

/-- A tag that cannot have the property is not that of a child. -/
theorem AllEverywhere.pick_eq_none (h : AllEverywhere P ms) (hP : ∀ as, ¬P tag as) :
    pick tag ms = none := by
  induction ms with
  | nil => rfl
  | cons m ms ih =>
    rw [allEverywhere_cons] at h
    obtain ⟨hm, hms⟩ := h
    cases hm with
    | text t =>
      rw [← List.singleton_append, pick_append, pick_text, ih hms]
      rfl
    | @empty t as h =>
      -- a child of this tag would have the property
      have ht : t ≠ tag := fun heq => hP as (heq ▸ h)
      rw [pick_empty, if_neg ht, ih hms]
    | @element t as children h _ =>
      have ht : t ≠ tag := fun heq => hP as (heq ▸ h)
      rw [pick_element, if_neg ht, ih hms]

end Wordsmith.Markup
