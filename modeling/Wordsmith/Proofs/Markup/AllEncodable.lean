import Wordsmith.Proofs.Markup.Encodable

/-!
# Sequences of markup without surrogates

Emitters put sequences of markup together, and one of them can be encoded exactly if all its pieces
can. An element with attributes adds their values to its content.
-/

namespace Wordsmith

/-- No markup of a sequence is printed with a surrogate. -/
def Markup.AllEncodable (ms : List Markup) : Prop := ∀ m ∈ ms, m.print.IsEncodable

namespace Markup

variable {ms ns : List Markup}

/-! ## Ways to put sequences together

An emitter conses, appends, maps over a list of items or joins the sequences of each item.
`AllEncodable` goes through each of these (`allEncodable_cons`, `allEncodable_append`,
`allEncodable_map`, `allEncodable_flatMap`), so `simp` takes a sequence apart down to its elements. -/

@[simp] theorem allEncodable_nil : AllEncodable [] := nofun

@[simp] theorem allEncodable_cons {m : Markup} :
    AllEncodable (m :: ms) ↔ m.print.IsEncodable ∧ AllEncodable ms :=
  List.forall_mem_cons

@[simp] theorem allEncodable_append :
    AllEncodable (ms ++ ns) ↔ AllEncodable ms ∧ AllEncodable ns :=
  List.forall_mem_append

theorem allEncodable_map {α : Type} {f : α → Markup} {xs : List α} :
    AllEncodable (xs.map f) ↔ ∀ x ∈ xs, (f x).print.IsEncodable :=
  List.forall_mem_map

theorem allEncodable_flatMap {α : Type} {f : α → List Markup} {xs : List α} :
    AllEncodable (xs.flatMap f) ↔ ∀ x ∈ xs, AllEncodable (f x) := by
  unfold AllEncodable
  simp only [List.mem_flatMap]
  exact ⟨fun h x hx m hm => h m ⟨x, hx, hm⟩, fun h m ⟨x, hx, hm⟩ => h x hx m hm⟩

/-! ## Attributes and elements

Numbers and fixed values never hold a surrogate. Escaping adds characters but neither removes nor adds
a surrogate, so an escaped value can be encoded exactly if the value can, and a verbatim value is the
value. -/

@[simp] theorem isEncodable_int {name : String} {n : Int} :
    (Attribute.int name n).written.IsEncodable :=
  Text.isEncodable_ofInt n

@[simp] theorem isEncodable_fixed {name value : String} :
    (Attribute.fixed name value).written.IsEncodable :=
  Text.isEncodable_ofString value

@[simp] theorem isEncodable_escaped {name : String} {value : Text} :
    (Attribute.escaped name value).written.IsEncodable ↔ value.IsEncodable :=
  Text.isEncodable_escape

@[simp] theorem isEncodable_verbatim {name : String} {value : Text} :
    (Attribute.verbatim name value).written.IsEncodable ↔ value.IsEncodable :=
  Iff.rfl

@[simp] theorem isEncodable_value {tag : String} {written : Text} :
    (value tag written).print.IsEncodable ↔ written.IsEncodable := by
  simp [value]

theorem isEncodable_element {tag : String} {attributes : List Attribute} :
    (Markup.element tag attributes ms).print.IsEncodable
      ↔ (∀ a ∈ attributes, a.written.IsEncodable) ∧ AllEncodable ms :=
  isEncodable_print_element

/-- An element without attributes adds nothing to its content. -/
@[simp high] theorem isEncodable_bare {tag : String} :
    (Markup.element tag [] ms).print.IsEncodable ↔ AllEncodable ms := by
  simp [AllEncodable]

/-- Markup that is written on a condition counts only under that condition. -/
@[simp] theorem allEncodable_if {b : Prop} [Decidable b] {m : Markup} :
    AllEncodable (if b then [m] else []) ↔ (b → m.print.IsEncodable) := by
  split
  · rename_i h
    simp [h]
  · rename_i h
    simp [h]

end Markup

/-- What holds of the members of a numbered list holds of those of the list. -/
theorem forall_mem_zipIdx_fst {α : Type} {l : List α} {P : α → Prop} :
    (∀ e ∈ l.zipIdx, P e.1) ↔ ∀ x ∈ l, P x := by
  have hmap : (∀ e ∈ l.zipIdx, P e.1) ↔ ∀ x ∈ l.zipIdx.map Prod.fst, P x :=
    List.forall_mem_map.symm
  rwa [List.zipIdx_map_fst] at hmap

end Wordsmith
