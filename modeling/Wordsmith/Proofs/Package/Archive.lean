import Wordsmith.Package.Archive
import Wordsmith.Proofs.Markup.Encodable

/-!
# What an archive holds

The parts of a document are encoded one after another, and all of them have to be. So an archive, if
there is one, holds the text of every part, and no part holds a surrogate
(`Style.holds_of_package`); and if no part holds a surrogate, there is an archive
(`Style.exists_package`).
-/

namespace Wordsmith

/-- The archive holds a part as the bytes of this text. -/
def Archive.Holds (a : Archive) (part : Part) (t : Text) : Prop :=
  ∃ e ∈ a.entries, e.name = Text.ofString part.name ∧ t.utf8? = some e.data

section Sequence

variable {α β ε : Type} {f : α → Except ε β} {xs : List α}

/-! ## Sequences of actions

Entries are made by an action for each part, and the first error is the error of them all. So success
says something of each part, and success of each part is success. -/

/-- A sequence of actions that succeeds has a result for each of them. -/
theorem exists_of_mapM_ok {ys : List β} (h : xs.mapM f = .ok ys) {x : α} (hx : x ∈ xs) :
    ∃ y ∈ ys, f x = .ok y := by
  induction xs generalizing ys with
  | nil => exact absurd hx List.not_mem_nil
  | cons z zs ih =>
    rw [List.mapM_cons] at h
    -- the result is there, so every step of it has succeeded
    cases hz : f z with
    | error e =>
      rw [hz] at h
      exact absurd h nofun
    | ok y =>
      cases hzs : zs.mapM f with
      | error e =>
        rw [hz, hzs] at h
        exact absurd h nofun
      | ok rest =>
        rw [hz, hzs] at h
        cases h
        rcases List.mem_cons.mp hx with rfl | hx
        · exact ⟨y, List.mem_cons_self, hz⟩
        · obtain ⟨y', hy', heq⟩ := ih hzs hx
          exact ⟨y', List.mem_cons_of_mem y hy', heq⟩

/-- A sequence of actions succeeds if each of them does. -/
theorem exists_mapM_ok (h : ∀ x ∈ xs, ∃ y, f x = .ok y) : ∃ ys, xs.mapM f = .ok ys := by
  induction xs with
  | nil => exact ⟨[], rfl⟩
  | cons x xs ih =>
    obtain ⟨y, hy⟩ := h x List.mem_cons_self
    obtain ⟨ys, hys⟩ := ih fun z hz => h z (List.mem_cons_of_mem x hz)
    refine ⟨y :: ys, ?_⟩
    rw [List.mapM_cons, hy, hys]
    rfl

end Sequence

/-! ## Archives

The only step that can fail is the encoding of a part. Storing fails if the
writer of archives refuses an entry, and it refuses none of these. -/

/-- The writer of archives refuses no entry, so it stores them all. -/
theorem Archive.store_eq (entries : List Entry) :
    Archive.store (fun _ => none) entries = .ok ⟨entries⟩ := by
  have hnone : entries.findSome? (fun _ => (none : Option Text)) = none :=
    List.findSome?_eq_none_iff.mpr fun _ _ => rfl
  unfold Archive.store
  rw [hnone]

namespace Style

variable {s : Style} {es : List Element}

/-- A package holds the text of every part. -/
theorem holds_of_package {archive : Archive} (h : s.package es = .ok archive) (part : Part) :
    archive.Holds part (s.partText es part) := by
  unfold package at h
  cases hentries : s.entries es with
  | error e =>
    rw [hentries] at h
    exact absurd h nofun
  | ok entries =>
    have hstore : Archive.store (fun _ => none) entries = .ok archive := by
      rw [hentries] at h
      exact h
    rw [Archive.store_eq] at hstore
    cases hstore
    -- each part was encoded, or the entries would have been an error
    have hpart : (part, s.partText es part) ∈ s.parts es :=
      List.mem_map_of_mem (by cases part <;> decide)
    obtain ⟨e, he, hencode⟩ := exists_of_mapM_ok hentries hpart
    change part.encode (s.partText es part) = .ok e at hencode
    unfold Part.encode at hencode
    cases hdata : (s.partText es part).utf8? with
    | none =>
      rw [hdata] at hencode
      exact absurd hencode nofun
    | some data =>
      rw [hdata] at hencode
      cases hencode
      exact ⟨⟨part.name, data⟩, he, rfl, hdata⟩

/-- The parts that are the same for every document hold no surrogate. -/
theorem isEncodable_fixedPart (part : Part)
    (h : part ≠ .document ∧ part ≠ .documentRelationships ∧ part ≠ .styles) :
    (s.partText es part).IsEncodable := by
  obtain ⟨hdocument, hrelationships, hstyles⟩ := h
  -- the four parts are small enough to be looked at, code point by code point
  cases part with
  | contentTypes => simp [partText, partMarkup, contentTypesMarkup, Attribute.fixed]
  | packageRelationships =>
    simp [partText, partMarkup, packageRelationshipsMarkup, Vocabulary.relationshipList,
      Vocabulary.relationship, LinkTable.relationName, Attribute.fixed, Attribute.escaped]
  | documentRelationships => exact absurd rfl hrelationships
  | document => exact absurd rfl hdocument
  | styles => exact absurd rfl hstyles
  | settings => simp [partText, partMarkup, settingsMarkup, Markup.value, Attribute.fixed]
  | settingsRelationships =>
    simp [partText, partMarkup, Vocabulary.relationshipList, Attribute.fixed]

/-- There is a package if no part holds a surrogate. -/
theorem exists_package (h : ∀ part, (s.partText es part).IsEncodable) :
    ∃ archive, s.package es = .ok archive := by
  obtain ⟨entries, hentries⟩ : ∃ entries, s.entries es = .ok entries := by
    apply exists_mapM_ok
    intro p hp
    obtain ⟨part, -, rfl⟩ := List.mem_map.mp hp
    refine ⟨⟨part.name, (s.partText es part).flatMap CodePoint.utf8⟩, ?_⟩
    show part.encode (s.partText es part) = _
    unfold Part.encode
    rw [Text.utf8?_of_isEncodable (h part)]
  refine ⟨⟨entries⟩, ?_⟩
  unfold package
  rw [hentries]
  exact Archive.store_eq entries

end Style

end Wordsmith
