import Mathlib.Data.List.Nodup
import Wordsmith.Package.Reference
import Wordsmith.Proofs.Markup.Lexicon

/-!
# The lexicon of relationships

A part that lists relationships uses two tags, and escapes every target. Its relationships have
numbered names, which are told apart as their numbers are.

* `LinkTable.within_relationships` — the part keeps to `relationshipLexicon`, whatever the targets are.
* `LinkTable.find_relationships` — the elements it stands for: two fixed ones and one for each target.
* `LinkTable.nodup_map_id` — no name is used twice.
-/

namespace Wordsmith

open Markup

/-- The tags of a part that lists relationships. -/
def relationshipTags : List (String × List String) :=
  [("Relationships", ["xmlns"]), ("Relationship", ["Id", "Type", "Target"]),
    ("Relationship", ["Id", "Type", "Target", "TargetMode"])]

/-- The lexicon of relationships: nothing is written as it is. -/
def relationshipLexicon : Lexicon where
  tags := relationshipTags
  verbatim _ _ := False

/-- With nothing verbatim the lexicon is fit for any content. -/
theorem relationshipLexicon_legible : relationshipLexicon.Legible where
  names := by
    show ∀ e ∈ relationshipTags, _
    decide
  verbatim := nofun

namespace LinkTable

/-! ## Names

A name is `rId` with a number behind it. Numbers are told apart by their digits, so names are too, and
both parts of a name are plain. -/

/-- Names are the same exactly if their numbers are. -/
theorem relationName_inj {m n : Nat} : relationName m = relationName n ↔ m = n := by
  unfold relationName
  rw [List.append_cancel_left_eq, Text.ofNat_inj]

/-- A name needs no escaping. -/
theorem isPlain_of_mem_relationName {n : Nat} {c : CodePoint} (h : c ∈ relationName n) :
    c.isPlain = true := by
  rcases List.mem_append.mp h with h | h
  · exact (by decide : ∀ c ∈ Text.ofString "rId", c.isPlain = true) c h
  · exact isPlain_of_mem_ofNat h

/-- So it may stand in a value under every lexicon. -/
theorem written_relationName {verbatim : Text → Prop} (n : Nat) :
    Written verbatim (relationName n) :=
  .plain fun _ hc => isPlain_of_mem_relationName hc

/-- And it is read as itself. -/
@[simp] theorem unescape_relationName (n : Nat) : (relationName n).unescape = relationName n :=
  unescape_of_isPlain fun _ hc => isPlain_of_mem_relationName hc

/-- A relationship keeps to the lexicon if its type is plain and its target is escaped. -/
theorem within_relationship (n : Nat) {type : String} {target : Text} {mode : List Attribute}
    (htype : (Text.ofString (Vocabulary.references ++ "/" ++ type)).all CodePoint.isPlain = true)
    (htarget : Written (fun _ => False) target.escape)
    (hmode : mode = [] ∨ mode = [.fixed "TargetMode" "External"]) :
    Within relationshipLexicon (Vocabulary.relationship (relationName n) type target mode) := by
  have hid : Written (fun _ => False) (relationName n) := written_relationName n
  have hreferences : Written (fun _ => False)
      (Text.ofString (Vocabulary.references ++ "/" ++ type)) := .ofString htype
  apply Within.empty
  rcases hmode with rfl | rfl
  · exact .of_mem (by simp [relationshipLexicon, relationshipTags, Attribute.fixed,
      Attribute.escaped]) ⟨hid, hreferences, htarget⟩
  · exact .of_mem (by simp [relationshipLexicon, relationshipTags, Attribute.fixed,
      Attribute.escaped]) ⟨hid, hreferences, htarget, .ofString (by decide)⟩

/-- The list of relationships keeps to the lexicon. -/
theorem within_relationships (t : LinkTable) : Within relationshipLexicon t.relationships := by
  have hroot : TagWithin relationshipLexicon "Relationships"
      [.fixed "xmlns" Vocabulary.relationships] :=
    .fixed [("xmlns", Vocabulary.relationships)] (by simp [relationshipLexicon, relationshipTags])
      (by decide)
  have hstyles : Within relationshipLexicon
      (Vocabulary.relationship (relationName 1) "styles" "styles.xml") :=
    within_relationship 1 (by decide) (.plain (by decide)) (Or.inl rfl)
  have hsettings : Within relationshipLexicon
      (Vocabulary.relationship (relationName 2) "settings" "settings.xml") :=
    within_relationship 2 (by decide) (.plain (by decide)) (Or.inl rfl)
  -- two fixed relationships, then one for each target of the table
  refine .element hroot ?_
  rw [List.forall_mem_append]
  refine ⟨List.forall_mem_cons.mpr ⟨hstyles, List.forall_mem_singleton.mpr hsettings⟩, ?_⟩
  intro m hm
  obtain ⟨⟨target, name⟩, hentry, rfl⟩ := List.mem_map.mp hm
  obtain ⟨⟨t, i⟩, -, heq⟩ := List.mem_map.mp hentry
  cases heq
  exact within_relationship _ (by decide) (.escaped target) (Or.inr rfl)

/-! ## What the relationships stand for

Escaping and reading undo each other, so each relationship stands for an element with the target as it
was stripped. These are the elements that a reader of the part sees, in order. -/

/-- A relationship as an element. -/
def relationshipView (n : Nat) (type : String) (target : Text) (mode : List (Text × Text)) : Xml :=
  .element "Relationship"
    ([(Text.ofString "Id", relationName n),
      (Text.ofString "Type", Text.ofString (Vocabulary.references ++ "/" ++ type)),
      (Text.ofString "Target", target)] ++ mode) []

/-- The relationship of a link target as an element. -/
def linkView (n : Nat) (target : Text) : Xml :=
  relationshipView n "hyperlink" target.strip [("TargetMode", "External")]

/-- The relationships of the link targets as elements, in order. -/
def linkViews (t : LinkTable) : List Xml :=
  t.targets.zipIdx.map fun (target, i) => linkView (firstNumber + i) target

/-- A relationship is found as the element it stands for. -/
theorem find_relationship (n : Nat) (type : String) (target : Text) (mode : List Attribute)
    (htype : (Text.ofString (Vocabulary.references ++ "/" ++ type)).all CodePoint.isPlain = true) :
    find "Relationship" [Vocabulary.relationship (relationName n) type target mode]
      = [relationshipView n type target (mode.map attributeView)] := by
  have hunescape := unescape_of_isPlain (List.all_eq_true.mp htype)
  unfold Vocabulary.relationship
  rw [find_empty_self]
  simp [relationshipView, attributeView, Attribute.fixed, Attribute.escaped, hunescape]

/-- The relationships of the document part: the two fixed parts, then the link targets in order. -/
theorem find_relationships (t : LinkTable) :
    find "Relationship" [t.relationships]
      = [relationshipView 1 "styles" "styles.xml" [],
          relationshipView 2 "settings" "settings.xml" []] ++ t.linkViews := by
  have hmode : ([.fixed "TargetMode" "External"] : List Attribute).map attributeView
      = [(Text.ofString "TargetMode", Text.ofString "External")] := by
    decide
  -- each target brings one relationship, numbered by its place in the table
  have htargets : ∀ e ∈ t.targets.zipIdx,
      find "Relationship" [Vocabulary.relationship (relationName (firstNumber + e.2)) "hyperlink"
        e.1.strip [.fixed "TargetMode" "External"]] = [linkView (firstNumber + e.2) e.1] := by
    intro e _
    rw [find_relationship _ "hyperlink" e.1.strip _ (by decide), hmode]
    rfl
  unfold relationships Vocabulary.relationshipList entries linkViews
  rw [find_element_of_ne (by decide), find_append, find_cons,
    find_relationship 1 "styles" "styles.xml" [] (by decide),
    find_relationship 2 "settings" "settings.xml" [] (by decide), List.map_map, find_map]
  apply congrArg (HAppend.hAppend _)
  rw [List.map_eq_flatMap]
  exact List.flatMap_congr htargets

section Attributes

variable (n : Nat) (type : String) (target : Text) (mode : List (Text × Text))

@[simp] theorem id_relationshipView :
    (relationshipView n type target mode).attribute? "Id" = some (relationName n) := by
  simp [relationshipView, Xml.attribute?, Xml.attributes]

@[simp] theorem type_relationshipView :
    (relationshipView n type target mode).attribute? "Type"
      = some (Text.ofString (Vocabulary.references ++ "/" ++ type)) := by
  rfl

@[simp] theorem target_relationshipView :
    (relationshipView n type target mode).attribute? "Target" = some target := by
  rfl

@[simp] theorem targetMode_linkView :
    (linkView n target).attribute? "TargetMode" = some (Text.ofString "External") := by
  rfl

end Attributes

/-- The relationships are named by the numbers from one on. -/
theorem map_id_find_relationships (t : LinkTable) :
    (find "Relationship" [t.relationships]).map (Xml.attribute? "Id")
      = (List.range' 1 (t.targets.length + 2)).map fun n => some (relationName n) := by
  -- the targets are counted from three on, behind the two fixed parts
  have hlinks : t.linkViews.map (Xml.attribute? "Id")
      = (List.range' 3 t.targets.length).map fun n => some (relationName n) := by
    unfold linkViews
    rw [List.map_map, ← List.map_add_range' 0, ← List.zipIdx_map_snd 0 t.targets, List.map_map,
      List.map_map]
    apply List.map_congr_left
    rintro ⟨target, i⟩ -
    exact id_relationshipView _ _ _ _
  rw [find_relationships, List.map_append, hlinks]
  rfl

/-- The names of the relationships are all different. -/
theorem nodup_map_id (t : LinkTable) :
    ((find "Relationship" [t.relationships]).map (Xml.attribute? "Id")).Nodup := by
  rw [map_id_find_relationships]
  apply List.Nodup.map
  · intro m n h
    exact relationName_inj.mp (Option.some.inj h)
  · exact List.nodup_range' 1

end LinkTable

end Wordsmith
