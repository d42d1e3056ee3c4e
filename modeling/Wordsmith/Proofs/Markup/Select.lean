import Wordsmith.Proofs.Markup.Lexicon
import Wordsmith.Proofs.Text.Numeral

/-!
# Children and attributes by name

A reader of a part asks an element for its first child with a tag and for an attribute of it, and
reads the value as a number or as one of a list of names. Of printed markup it gets what the writer
put there: `pick` says which child that is, and `written?` which value.

The lemmas here are equations for `simp`: of a part that is written as a list of elements, with some of
them under conditions, they compute what a reader finds first.
-/

namespace Wordsmith

namespace Xml

/-! ## What a reader asks

The questions are those of a reader of the whole part: it knows the tags by name, takes the first child
if there are several, and does not look any deeper. -/

/-- The element has this tag; a character has none. -/
def hasTag (tag : String) : Xml → Bool
  | .character _ => false
  | .element t _ _ => t = Text.ofString tag

/-- The first child with this tag. -/
def child? (tag : String) (x : Xml) : Option Xml := x.content.find? (hasTag tag)

/-- There is a child with this tag. -/
def hasChild (tag : String) (x : Xml) : Bool := (x.child? tag).isSome

/-- An attribute of the first child with this tag. -/
def childAttribute? (tag name : String) (x : Xml) : Option Text :=
  (x.child? tag).bind (·.attribute? name)

/-- An attribute of the first child with this tag, as a number. -/
def childNumber? (tag name : String) (x : Xml) : Option Int :=
  (x.childAttribute? tag name).bind Text.toInt?

/-- An element has one tag. -/
theorem eq_of_hasTag {x : Xml} {s t : String} (hs : x.hasTag s = true) (ht : x.hasTag t = true) :
    s = t := by
  cases x with
  | character c => exact absurd hs Bool.false_ne_true
  | element tag attributes content =>
    exact Text.ofString_inj.mp ((of_decide_eq_true hs).symm.trans (of_decide_eq_true ht))

end Xml

/-- What the list gives a name, absent if the text is none of its names. -/
def Text.named? {α : Type} (names : List (String × α)) (t : Text) : Option α :=
  (names.find? fun entry => t.isLiteral entry.1).map (·.2)

namespace Markup

open Xml

variable {tag : String} {attributes : List Attribute} {ms : List Markup}

/-! ## Of printed markup

The same questions of markup: `node` is the element that a tag is read as, `pick` the child that is
found, and `written?` the value. -/

/-- The element that a tag stands for, with its attributes and the markup in it. -/
def node (tag : String) (attributes : List Attribute) (children : List Markup) : Xml :=
  .element tag (attributes.map attributeView) (viewAll children)

/-- The first child with this tag of an element with this content. -/
def pick (tag : String) (ms : List Markup) : Option Xml := (viewAll ms).find? (hasTag tag)

/-- The value of an attribute among those that are written in a tag. -/
def written? (name : String) (attributes : List Attribute) : Option Text :=
  (attributes.map attributeView).lookup (Text.ofString name)

/-- An element is read as one element. -/
@[simp] theorem view_element (t : String) (attributes : List Attribute) (children : List Markup) :
    (Markup.element t attributes children).view = [node t attributes children] :=
  rfl

/-- An empty tag is read as an element without content. -/
@[simp] theorem view_empty (t : String) (attributes : List Attribute) :
    (Markup.empty t attributes).view = [node t attributes []] :=
  rfl

@[simp] theorem child?_node (t : String) (attributes : List Attribute) (tag : String)
    (ms : List Markup) : (node t attributes ms).child? tag = pick tag ms :=
  rfl

@[simp] theorem attribute?_node (t : String) (attributes : List Attribute) (ms : List Markup)
    (name : String) : (node t attributes ms).attribute? name = written? name attributes :=
  rfl

/-- The tag of an element is the one it was written with. -/
@[simp] theorem hasTag_node (t tag : String) (attributes : List Attribute) (ms : List Markup) :
    (node t attributes ms).hasTag tag = decide (t = tag) := by
  simp only [node, hasTag, Text.ofString_inj]

/-- In particular, it has this tag. -/
theorem hasTag_self (tag : String) (attributes : List Attribute) (ms : List Markup) :
    (node tag attributes ms).hasTag tag = true := by
  rw [hasTag_node, decide_eq_true rfl]

/-- What is found under an element is found in the markup that it stands for. -/
theorem tagged_node (t : String) (attributes : List Attribute) (children : List Markup)
    (tag : String) : (node t attributes children).tagged tag
      = find tag [.element t attributes children] := by
  unfold find
  rw [viewAll, viewAll, view_element, List.append_nil, taggedAll, taggedAll, List.append_nil]

/-! ## Children

The first child with a tag, computed along the list of what is written. -/

@[simp] theorem pick_nil (tag : String) : pick tag [] = none := rfl

/-- What comes first is picked first. -/
@[simp] theorem pick_append (tag : String) (ms ns : List Markup) :
    pick tag (ms ++ ns) = (pick tag ms).or (pick tag ns) := by
  unfold pick
  rw [viewAll_append, List.find?_append]

@[simp] theorem pick_element (t : String) (attributes : List Attribute)
    (children ms : List Markup) :
    pick tag (.element t attributes children :: ms)
      = if t = tag then some (node t attributes children) else pick tag ms := by
  unfold pick
  rw [viewAll, view_element, List.singleton_append, List.find?_cons, hasTag_node]
  by_cases h : t = tag <;> simp [h]

@[simp] theorem pick_empty (t : String) (attributes : List Attribute) (ms : List Markup) :
    pick tag (.empty t attributes :: ms)
      = if t = tag then some (node t attributes []) else pick tag ms := by
  unfold pick
  rw [viewAll, view_empty, List.singleton_append, List.find?_cons, hasTag_node]
  by_cases h : t = tag <;> simp [h]

@[simp] theorem pick_value (t : String) (w : Text) (ms : List Markup) :
    pick tag (.value t w :: ms)
      = if t = tag then some (node t [⟨"w:val", w⟩] []) else pick tag ms :=
  pick_empty t _ ms

/-- Markup that is written under a condition. -/
theorem pick_ite (tag : String) (p : Prop) [Decidable p] (ms ns : List Markup) :
    pick tag (if p then ms else ns) = if p then pick tag ms else pick tag ns :=
  apply_ite (pick tag) p ms ns

/-- Text has no tag, so nothing is picked from it. -/
theorem pick_text (tag : String) (t : Text) : pick tag [.text t] = none := by
  unfold pick
  rw [viewAll, view, viewAll, List.append_nil, List.find?_map, Option.map_eq_none_iff,
    List.find?_eq_none]
  exact fun c _ => Bool.false_ne_true

/-! ## All children with a tag

Where a reader goes through all children of a kind, such as the styles of a part or the columns of a
grid, the same equations hold of the list of them. -/

/-- The children with this tag of an element with this content. -/
def pickAll (tag : String) (ms : List Markup) : List Xml := (viewAll ms).filter (hasTag tag)

@[simp] theorem pickAll_nil (tag : String) : pickAll tag [] = [] := rfl

@[simp] theorem pickAll_append (tag : String) (ms ns : List Markup) :
    pickAll tag (ms ++ ns) = pickAll tag ms ++ pickAll tag ns := by
  unfold pickAll
  rw [viewAll_append, List.filter_append]

@[simp] theorem pickAll_element (t : String) (attributes : List Attribute)
    (children ms : List Markup) :
    pickAll tag (.element t attributes children :: ms)
      = if t = tag then node t attributes children :: pickAll tag ms else pickAll tag ms := by
  unfold pickAll
  rw [viewAll, view_element, List.singleton_append, List.filter_cons, hasTag_node]
  simp only [decide_eq_true_eq]

@[simp] theorem pickAll_empty (t : String) (attributes : List Attribute) (ms : List Markup) :
    pickAll tag (.empty t attributes :: ms)
      = if t = tag then node t attributes [] :: pickAll tag ms else pickAll tag ms := by
  unfold pickAll
  rw [viewAll, view_empty, List.singleton_append, List.filter_cons, hasTag_node]
  simp only [decide_eq_true_eq]

/-- The same empty tag, written many times. -/
theorem pickAll_replicate (n : Nat) (t : String) (attributes : List Attribute) :
    pickAll t (List.replicate n (.empty t attributes))
      = List.replicate n (node t attributes []) := by
  induction n with
  | zero => rfl
  | succ n ih => rw [List.replicate_succ, pickAll_empty, if_pos rfl, ih, List.replicate_succ]

section Map

variable {α : Type} {f : α → Markup} {g : α → Xml} (hview : ∀ x, (f x).view = [g x])

include hview

/-- Elements that are written one by one are read one by one. -/
theorem viewAll_map (xs : List α) : viewAll (xs.map f) = xs.map g := by
  induction xs with
  | nil => rfl
  | cons x xs ih => rw [List.map_cons, viewAll, hview x, ih, List.singleton_append, List.map_cons]

/-- If they have one tag, they are picked all or none. -/
theorem pickAll_map {t : String} (htag : ∀ x, (g x).hasTag t = true) (xs : List α) :
    pickAll tag (xs.map f) = if t = tag then xs.map g else [] := by
  unfold pickAll
  rw [viewAll_map hview]
  split
  · rename_i h
    rw [List.filter_eq_self, List.forall_mem_map]
    exact fun x _ => h ▸ htag x
  · rename_i h
    rw [List.filter_eq_nil_iff, List.forall_mem_map]
    exact fun x _ hself => h (eq_of_hasTag (htag x) hself)

end Map

/-! ## Attributes

An attribute is found by its name, the first one if a tag has several of them, and its value is read
with the references in it resolved. -/

@[simp] theorem written?_nil (name : String) : written? name [] = none := rfl

@[simp] theorem written?_append (name : String) (as bs : List Attribute) :
    written? name (as ++ bs) = (written? name as).or (written? name bs) := by
  unfold written?
  rw [List.map_append, List.lookup_append]

@[simp] theorem written?_cons (name : String) (a : Attribute) (as : List Attribute) :
    written? name (a :: as)
      = if a.name = name then some a.written.unescape else written? name as := by
  unfold written?
  rw [List.map_cons, attributeView, List.lookup_cons, Text.ofString_beq]
  by_cases h : a.name = name
  · simp [h]
  · rw [if_neg h, beq_false_of_ne (Ne.symm h)]

end Markup

end Wordsmith
