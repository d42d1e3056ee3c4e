import Wordsmith.Proofs.Package.Pieces

/-!
# Hyperlinks and their targets

In the mode `hyperlink` two walks over the elements have to agree: one collects the link targets and
numbers them, the other writes the linked groups with the names of their relationships. Both visit
the pieces of the document in reading order, so every hyperlink in the body leads to the target of
its group, and the relationships list each target once, in the order of first occurrence.

* `map_id_find_documentMarkup` — the names on the hyperlinks, in reading order.
* `leadsTo_relationships` — what a name leads to, and that no other relationship has it.
* `hyperlinks_resolve` — the two together, read from the texts of the two parts.
-/

namespace Wordsmith

open Markup LinkTable

namespace Run

/-- The targets of the linked groups in a sequence of runs. -/
def groupTargets (runs : List Run) : List Text := (groups runs).filterMap groupTarget?

/-- The target of a group is that of one of the runs. -/
theorem mem_targets_of_mem_groups {runs group : List Run} (hgroup : group ∈ groups runs)
    {target : Text} (h : groupTarget? group = some target) : target ∈ targets runs := by
  cases group with
  | nil => exact absurd h nofun
  | cons r rs =>
    have hmem : r ∈ runs := by
      rw [← flatten_groups runs]
      exact List.mem_flatten.mpr ⟨r :: rs, hgroup, List.mem_cons_self⟩
    exact List.mem_filterMap.mpr ⟨r, hmem, h⟩

end Run

namespace Element

/-- The link targets of a document, each of them once, in the order of their first occurrences. -/
def distinctTargets (es : List Element) : List Text :=
  ((runSequences es).flatMap Run.targets).eraseDups

/-- The targets of the linked groups of a document in reading order. -/
def groupTargets (es : List Element) : List Text := (runSequences es).flatMap Run.groupTargets

/-- The target of a hyperlink is among those that are listed. -/
theorem mem_distinctTargets {es : List Element} {target : Text} (h : target ∈ groupTargets es) :
    target ∈ distinctTargets es := by
  obtain ⟨runs, hruns, htarget⟩ := List.mem_flatMap.mp h
  obtain ⟨group, hgroup, htarget⟩ := List.mem_filterMap.mp htarget
  apply List.mem_eraseDups.mpr
  exact List.mem_flatMap.mpr ⟨runs, hruns, Run.mem_targets_of_mem_groups hgroup htarget⟩

end Element

/-! ## The table of targets

The table is made of the links of the document, and its order is that of their first occurrences. A
target is numbered by its place. -/

/-- Where links are hyperlinks, the table lists the targets of the document. -/
theorem Style.targets_linkPolicy {s : Style} (hmode : s.linkMode = .hyperlink) (es : List Element) :
    (s.linkPolicy (Element.allLinks es)).table.targets = Element.distinctTargets es := by
  show (if s.linkMode = .hyperlink then (Element.allLinks es).eraseDups else []) = _
  rw [if_pos hmode, Element.allLinks_eq]
  rfl

namespace LinkTable

/-- A target of the table has the number of its place. -/
theorem exists_name? {t : LinkTable} {target : Text} (h : target ∈ t.targets) :
    ∃ i, t.targets[i]? = some target ∧ t.name? target = some (relationName (firstNumber + i)) := by
  obtain ⟨i, hi⟩ := Option.isSome_iff_exists.mp (List.isSome_idxOf?.mpr h)
  obtain ⟨hlt, heq, -⟩ := List.idxOf?_eq_some_iff.mp hi
  refine ⟨i, ?_, ?_⟩
  · rw [List.getElem?_eq_getElem hlt, heq]
  · unfold name?
    rw [hi]
    rfl

end LinkTable

/-! ## The hyperlinks in the body

A hyperlink is found by its tag. Elements other than runs have no such tag, and runs alone have none
either, so the hyperlinks are those of the linked groups. -/

section Body

variable {p : LinkPolicy}

/-- A group with a target that has a number is one hyperlink, with the name of that number; any other
group is none. -/
theorem map_id_find_group (hmode : p.mode = .hyperlink) {group : List Run}
    (hknown : ∀ target ∈ Run.groupTarget? group, target ∈ p.table.targets) :
    (find "w:hyperlink" (Run.groupMarkup p (Run.groupLink group) group)).map
        (Xml.attribute? "r:id")
      = (Run.groupTarget? group).toList.map p.table.name? := by
  cases htarget : Run.groupTarget? group with
  | none =>
    rw [Run.groupMarkup_of_none htarget, find_hyperlink_runs]
    rfl
  | some target =>
    -- the hyperlink is the only one here, since the runs in it hold none
    obtain ⟨i, -, hname⟩ := exists_name? (hknown target htarget)
    rw [Run.groupMarkup_of_name hmode htarget hname, find_element_self, find_hyperlink_runs]
    simp [attributeView, Attribute.verbatim, Xml.attribute?, Xml.attributes, hname]

/-- The hyperlinks of a sequence of runs are those of its linked groups. -/
theorem map_id_find_runs (hmode : p.mode = .hyperlink) {runs : List Run}
    (hknown : ∀ target ∈ Run.targets runs, target ∈ p.table.targets) :
    (find "w:hyperlink" (Run.allMarkup p runs)).map (Xml.attribute? "r:id")
      = (Run.groupTargets runs).map p.table.name? := by
  have hgroup : ∀ group ∈ Run.groups runs,
      (find "w:hyperlink" (Run.groupMarkup p (Run.groupLink group) group)).map
          (Xml.attribute? "r:id")
        = (Run.groupTarget? group).toList.map p.table.name? := by
    -- the target of a group is collected with its runs, so it is in the table
    intro group hgroup
    apply map_id_find_group hmode
    intro target htarget
    exact hknown target (Run.mem_targets_of_mem_groups hgroup htarget)
  rw [Run.allMarkup_eq, find_flatMap, List.map_flatMap, List.flatMap_congr hgroup,
    Run.groupTargets, List.filterMap_eq_flatMap_toList, List.map_flatMap]

/-- The hyperlinks in the document part are those of its run sequences, in reading order. -/
theorem map_id_find_documentMarkup (hmode : p.mode = .hyperlink) (contentWidth : Int)
    (size : PageSize) (margins : PageMargins) (es : List Element)
    (hknown : p.table.targets = Element.distinctTargets es) :
    (find "w:hyperlink" [documentMarkup ⟨p, contentWidth⟩ size margins es]).map
        (Xml.attribute? "r:id")
      = (Element.groupTargets es).map p.table.name? := by
  -- piece by piece: a text has no links, and a sequence has those of its groups
  have hpiece : ∀ piece ∈ Element.allPieces es,
      (find "w:hyperlink" (piece.markup p)).map (Xml.attribute? "r:id")
        = (piece.runs?.toList.flatMap Run.groupTargets).map p.table.name? := by
    intro piece hpiece
    cases piece with
    | text t =>
      show (find "w:hyperlink" [runText t]).map _ = []
      rw [find_hyperlink_runText]
      rfl
    | sequence runs =>
      have hruns : runs ∈ Element.runSequences es := List.mem_filterMap.mpr ⟨_, hpiece, rfl⟩
      have hmem : ∀ target ∈ Run.targets runs, target ∈ p.table.targets := by
        intro target htarget
        rw [hknown]
        exact List.mem_eraseDups.mpr (List.mem_flatMap.mpr ⟨runs, hruns, htarget⟩)
      rw [Piece.markup, map_id_find_runs hmode hmem]
      show _ = ([runs].flatMap Run.groupTargets).map _
      rw [List.flatMap_singleton]
  rw [find_documentMarkup (by decide), List.map_flatMap, List.flatMap_congr hpiece,
    Element.groupTargets, Element.runSequences, List.filterMap_eq_flatMap_toList,
    List.flatMap_assoc, List.map_flatMap]

end Body

/-! ## Hyperlinks and relationships together

A name is resolved as a reader does: by looking among all relationships for those with this name. There
has to be one, so two relationships with one name would break the statement. -/

/-- A relationship of a hyperlink. -/
def Xml.IsLinkRelationship (r : Xml) : Prop :=
  r.attribute? "Type" = some (Text.ofString (Vocabulary.references ++ "/hyperlink"))

instance (r : Xml) : Decidable r.IsLinkRelationship :=
  inferInstanceAs (Decidable (_ = _))

/-- Among the relationships exactly one has this name, and it leads outside the package to this
target. -/
def Xml.LeadsTo (relationships : List Xml) (name target : Text) : Prop :=
  ∃ r, relationships.filter (fun r => r.attribute? "Id" = some name) = [r] ∧
    r.attribute? "TargetMode" = some (Text.ofString "External") ∧
    r.attribute? "Target" = some target.strip

/-- The name on a hyperlink resolves to a target: it is the name of the place of the target among the
distinct ones, and leads to the target. -/
def Xml.Resolves (es : List Element) (relationships : List Xml) (name : Option Text)
    (target : Text) : Prop :=
  ∃ i, (Element.distinctTargets es)[i]? = some target ∧
    name = some (relationName (firstNumber + i)) ∧
    LeadsTo relationships (relationName (firstNumber + i)) target

/-- A key that occurs once picks its element. -/
theorem filter_eq_singleton {α β : Type} [DecidableEq β] {f : α → β} {xs : List α}
    (h : (xs.map f).Nodup) {x : α} (hx : x ∈ xs) : xs.filter (fun y => f y = f x) = [x] := by
  induction xs with
  | nil => exact absurd hx List.not_mem_nil
  | cons y ys ih =>
    rw [List.map_cons, List.nodup_cons] at h
    obtain ⟨hnew, hnodup⟩ := h
    rcases List.mem_cons.mp hx with rfl | hmem
    · -- the value is not taken a second time
      have hrest : ys.filter (fun y => f y = f x) = [] := by
        rw [List.filter_eq_nil_iff]
        intro z hz heq
        rw [← of_decide_eq_true heq] at hnew
        exact hnew (List.mem_map_of_mem hz)
      rw [List.filter_cons_of_pos (p := fun y => f y = f x) (decide_eq_true rfl), hrest]
    · have hne : f y ≠ f x := by
        intro heq
        rw [heq] at hnew
        exact hnew (List.mem_map_of_mem hmem)
      rw [List.filter_cons_of_neg (by simpa using hne), ih hnodup hmem]

/-- The number of a target's place names its relationship, and no other. -/
theorem leadsTo_relationships {t : LinkTable} {i : Nat} {target : Text}
    (h : t.targets[i]? = some target) :
    Xml.LeadsTo (find "Relationship" [t.relationships]) (relationName (firstNumber + i))
      target := by
  -- the relationships of links come after the two fixed ones, each at its place
  have hmem : linkView (firstNumber + i) target ∈ find "Relationship" [t.relationships] := by
    rw [find_relationships]
    apply List.mem_append_right
    exact List.mem_map.mpr ⟨(target, i), List.mk_mem_zipIdx_iff_getElem?.mpr h, rfl⟩
  have hid : some (relationName (firstNumber + i))
      = (linkView (firstNumber + i) target).attribute? "Id" := (id_relationshipView _ _ _ _).symm
  refine ⟨linkView (firstNumber + i) target, ?_, targetMode_linkView _ _,
    target_relationshipView _ _ _ _⟩
  rw [hid]
  exact filter_eq_singleton t.nodup_map_id hmem

/-- The relationships of hyperlinks are those of the targets. -/
theorem filter_isLinkRelationship (t : LinkTable) :
    (find "Relationship" [t.relationships]).filter (fun r => r.IsLinkRelationship)
      = t.linkViews := by
  have hlinks : ∀ r ∈ t.linkViews, decide r.IsLinkRelationship = true := by
    intro r hr
    obtain ⟨⟨target, i⟩, -, rfl⟩ := List.mem_map.mp hr
    exact decide_eq_true (type_relationshipView _ _ _ _)
  -- the styles and the settings are not reached by hyperlinks
  have hfixed : ∀ r ∈ [relationshipView 1 "styles" "styles.xml" [],
      relationshipView 2 "settings" "settings.xml" []], ¬ decide r.IsLinkRelationship = true := by
    simp only [List.forall_mem_cons, decide_eq_true_eq, Xml.IsLinkRelationship,
      type_relationshipView]
    exact ⟨by decide, by decide, nofun⟩
  rw [find_relationships, List.filter_append, List.filter_eq_self.mpr hlinks,
    List.filter_eq_nil_iff.mpr hfixed, List.nil_append]

/-- The names on the hyperlinks of a document part are those that the table has for the targets of the
linked groups, in reading order. -/
theorem Style.map_id_hyperlinks {s : Style} (hmode : s.linkMode = .hyperlink) {es : List Element}
    {root : Xml} (hdocument : ∀ tag, root.tagged tag = find tag
      [documentMarkup (s.bodyPolicy (Element.allLinks es)) s.pageSize s.pageMargins es]) :
    (root.tagged "w:hyperlink").map (Xml.attribute? "r:id")
      = (Element.groupTargets es).map (s.linkPolicy (Element.allLinks es)).table.name? := by
  rw [hdocument]
  exact map_id_find_documentMarkup hmode s.contentWidth s.pageSize s.pageMargins es
    (s.targets_linkPolicy hmode es)

/-- The name that the table has for a target of the document resolves to it. -/
theorem Style.resolves_name? {s : Style} (hmode : s.linkMode = .hyperlink) {es : List Element}
    {rels : Xml} (hrelationships : ∀ tag, rels.tagged tag = find tag
      [(s.linkPolicy (Element.allLinks es)).table.relationships])
    {target : Text} (h : target ∈ Element.distinctTargets es) :
    Xml.Resolves es (rels.tagged "Relationship")
      ((s.linkPolicy (Element.allLinks es)).table.name? target) target := by
  have htargets := s.targets_linkPolicy hmode es
  rw [← htargets] at h
  obtain ⟨i, hi, hname⟩ := exists_name? h
  refine ⟨i, htargets ▸ hi, hname, ?_⟩
  rw [hrelationships]
  exact leadsTo_relationships hi

/-- Hyperlinks and relationships agree. In reading order the hyperlinks in the body are those of the
linked groups, and each resolves to the target of its group. The relationships of hyperlinks are
numbered without gaps from three on, one for each distinct target in the order of first
occurrence. -/
theorem hyperlinks_resolve (s : Style) (es : List Element) (hmode : s.linkMode = .hyperlink)
    (hcolor : ∀ c ∈ s.linkColor, c ≠ '<' ∧ c ≠ '&' ∧ c ≠ '"') :
    ∃ root rels, Xml.read? (s.partText es .document) = some root ∧
      Xml.read? (s.partText es .documentRelationships) = some rels ∧
      List.Forall₂
        (fun h target => Xml.Resolves es (rels.tagged "Relationship") (h.attribute? "r:id") target)
        (root.tagged "w:hyperlink") (Element.groupTargets es) ∧
      ((rels.tagged "Relationship").filter (fun r => r.IsLinkRelationship)).map
          (fun r => (r.attribute? "Id", r.attribute? "Target"))
        = (Element.distinctTargets es).zipIdx.map fun (target, i) =>
            (some (relationName (firstNumber + i)), some target.strip) := by
  obtain ⟨root, hroot, hdocument⟩ := s.exists_read?_document es hcolor
  obtain ⟨rels, hrels, hrelationships⟩ := s.exists_read?_relationships es
  refine ⟨root, rels, hroot, hrels, ?_, ?_⟩
  · have hresolve : ∀ target ∈ Element.groupTargets es, Xml.Resolves es (rels.tagged "Relationship")
        ((s.linkPolicy (Element.allLinks es)).table.name? target) target := fun target htarget =>
      Style.resolves_name? hmode hrelationships (Element.mem_distinctTargets htarget)
    -- all that the statement asks of a hyperlink is its name
    have hnames := List.forall₂_map_left_iff.mpr (List.forall₂_same.mpr hresolve)
    rw [← Style.map_id_hyperlinks hmode hdocument] at hnames
    exact List.forall₂_map_left_iff.mp hnames
  · rw [hrelationships, filter_isLinkRelationship, linkViews, s.targets_linkPolicy hmode es,
      List.map_map]
    apply List.map_congr_left
    rintro ⟨target, i⟩ -
    exact congrArg₂ Prod.mk (id_relationshipView _ _ _ _) (target_relationshipView _ _ _ _)

/-- Two targets, one of them used again in a cell of a table, and an empty link between them. -/
def linkedElements : List Element :=
  [.paragraph [{ text := "x", link := some "b" }, { text := "y", link := some "b" },
      { text := "z" }],
    .table [⟨[⟨[.quote [{ text := "q", link := some "a" }, { text := "r", link := some [] },
      { text := "s", link := some "b" }]]⟩], true⟩]]

/-- Three hyperlinks, and a relationship for each of two targets. -/
theorem hyperlinks_resolve_linkedElements :
    ∃ root rels,
      Xml.read? (({ linkMode := .hyperlink } : Style).partText linkedElements .document)
        = some root ∧
      (root.tagged "w:hyperlink").length = 3 ∧
      Xml.read? (({ linkMode := .hyperlink } : Style).partText linkedElements
        .documentRelationships) = some rels ∧
      ((rels.tagged "Relationship").filter (fun r => r.IsLinkRelationship)).map
          (fun r => (r.attribute? "Id", r.attribute? "Target"))
        = [(some (Text.ofString "rId3"), some (Text.ofString "b")),
            (some (Text.ofString "rId4"), some (Text.ofString "a"))] := by
  -- three hyperlinks lead to two targets
  have hgroups : (Element.groupTargets linkedElements).length = 3 := by decide
  have hdistinct : (Element.distinctTargets linkedElements).zipIdx.map (fun (target, i) =>
      (some (relationName (firstNumber + i)), some target.strip))
        = [(some (Text.ofString "rId3"), some (Text.ofString "b")),
            (some (Text.ofString "rId4"), some (Text.ofString "a"))] := by
    decide
  obtain ⟨root, rels, hroot, hrels, hhyperlinks, hrelationships⟩ :=
    hyperlinks_resolve { linkMode := .hyperlink } linkedElements rfl (by decide)
  exact ⟨root, rels, hroot, hhyperlinks.length_eq.trans hgroups, hrels,
    hrelationships.trans hdistinct⟩

end Wordsmith
