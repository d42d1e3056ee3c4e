import Wordsmith.Proofs.Markup.Lexicon

/-!
# Markup with other attributes

The attributes of a piece of markup can be changed tag by tag. Tags, texts and nesting stay as they
are, so what the markup stands for keeps its outline (`outlineAll_viewAll_mapAttributes`).

* `Xml.outline`: a tree without its attributes and its characters.
* `Markup.mapAttributes`: markup whose attributes are changed by a function of the tag.
* `Markup.mapAttributes_id`: attributes that are changed into themselves leave the markup alone.
-/

namespace Wordsmith

open Xml

namespace Xml

mutual

/-- The elements of a tree with their tags and their nesting, without attributes and characters. -/
def outline : Xml → List Xml
  | .character _ => []
  | .element tag _ content => [.element tag [] (outlineAll content)]

def outlineAll : List Xml → List Xml
  | [] => []
  | x :: xs => outline x ++ outlineAll xs

end

theorem outlineAll_append (xs ys : List Xml) :
    outlineAll (xs ++ ys) = outlineAll xs ++ outlineAll ys := by
  induction xs with
  | nil => rfl
  | cons x xs ih => rw [List.cons_append, outlineAll, ih, outlineAll, List.append_assoc]

end Xml

namespace Markup

mutual

/-- A piece of markup with the attributes of each tag changed. -/
def mapAttributes (g : String → List Attribute → List Attribute) : Markup → Markup
  | .text written => .text written
  | .empty tag attributes => .empty tag (g tag attributes)
  | .element tag attributes children =>
    .element tag (g tag attributes) (mapAllAttributes g children)

def mapAllAttributes (g : String → List Attribute → List Attribute) : List Markup → List Markup
  | [] => []
  | m :: ms => mapAttributes g m :: mapAllAttributes g ms

end

variable {g : String → List Attribute → List Attribute}

/-! ## Computing with changed markup

`mapAttributes` recurses through the children with `mapAllAttributes`, which is a map over the
sequence. The `simp` lemmas below state the recursion with `List.map`, so that emitters, which are full
of maps and appends, can be followed by the lemmas of lists. -/

theorem mapAllAttributes_eq (ms : List Markup) :
    mapAllAttributes g ms = ms.map (mapAttributes g) := by
  induction ms with
  | nil => rfl
  | cons m ms ih => rw [mapAllAttributes, ih, List.map_cons]

@[simp] theorem mapAttributes_text (t : Text) : mapAttributes g (.text t) = .text t := by
  rw [mapAttributes]

@[simp] theorem mapAttributes_empty (tag : String) (attributes : List Attribute) :
    mapAttributes g (.empty tag attributes) = .empty tag (g tag attributes) := by
  rw [mapAttributes]

@[simp] theorem mapAttributes_element (tag : String) (attributes : List Attribute)
    (ms : List Markup) :
    mapAttributes g (.element tag attributes ms)
      = .element tag (g tag attributes) (ms.map (mapAttributes g)) := by
  rw [mapAttributes, mapAllAttributes_eq]

/-! ## The identity

Both statements are proved together, since the children of an element are a sequence. -/

mutual

theorem mapAttributes_id (m : Markup) : mapAttributes (fun _ attributes => attributes) m = m := by
  cases m with
  | text written => rw [mapAttributes]
  | empty tag attributes => rw [mapAttributes]
  | element tag attributes children => rw [mapAttributes, mapAllAttributes_id children]

theorem mapAllAttributes_id (ms : List Markup) :
    mapAllAttributes (fun _ attributes => attributes) ms = ms := by
  cases ms with
  | nil => rfl
  | cons m ms => rw [mapAllAttributes, mapAttributes_id m, mapAllAttributes_id ms]

end

theorem map_mapAttributes_id (ms : List Markup) :
    ms.map (mapAttributes fun _ attributes => attributes) = ms := by
  rw [← mapAllAttributes_eq, mapAllAttributes_id]

/-! ## The outline stays

What markup stands for (`Markup.view`) has one element for each element of the markup. Dropping the
attributes from it forgets what `mapAttributes` did. -/

mutual

theorem outlineAll_view_mapAttributes (m : Markup) :
    outlineAll (m.mapAttributes g).view = outlineAll m.view := by
  cases m with
  -- characters are dropped by the outline and not changed by the map
  | text written => rw [mapAttributes]
  | empty tag attributes => rw [mapAttributes, view, view]; rfl
  | element tag attributes children =>
    rw [mapAttributes, view, view, outlineAll, outline, outlineAll, outlineAll, outline,
      outlineAll_viewAll_mapAttributes children]
    rfl

theorem outlineAll_viewAll_mapAttributes (ms : List Markup) :
    outlineAll (viewAll (mapAllAttributes g ms)) = outlineAll (viewAll ms) := by
  cases ms with
  | nil => rfl
  | cons m ms =>
    rw [mapAllAttributes, viewAll, viewAll, outlineAll_append, outlineAll_append,
      outlineAll_view_mapAttributes m, outlineAll_viewAll_mapAttributes ms]

end

end Markup

end Wordsmith
