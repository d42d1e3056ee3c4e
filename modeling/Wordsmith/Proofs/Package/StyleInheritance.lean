import Wordsmith.Proofs.Package.StyleReading

/-!
# Distances that styles inherit

A style that does not say a distance has that of the style it is based on. All styles of paragraphs
are based on that of running paragraphs, and only positive distances are written
(`Attribute.ifPositive`). So a style has its own distance if that is positive, and the distance of
running paragraphs if not: a style that asks for no distance has none only if running paragraphs have
none (`Style.distances_partText`).

* `Xml.distance?` — how a reader finds a distance: in the style itself, or in the one it is based on.
* `Markup.Sets` — what a style that is written says of distances (`HeadingStyle.sets_markup` and its
  likes).
* `distance?_root` — the distances in the part, by looking up both styles.
-/

namespace Wordsmith

open Xml Markup

/-- The distances around a paragraph. -/
inductive Distance where
  | before
  | after
  | left
  | right
deriving DecidableEq, Repr

namespace Distance

/-- The tag of the property that says the distance. -/
def tag : Distance → String
  | .before | .after => "w:spacing"
  | .left | .right => "w:ind"

/-- The attribute that says the distance. -/
def name : Distance → String
  | .before => "w:before"
  | .after => "w:after"
  | .left => "w:left"
  | .right => "w:right"

end Distance

/-! ## The reader

A distance that a style does not say is looked for one step up. The base of a style is found by its
identifier, so this needs the whole part. -/

namespace Xml

/-- A distance as a style says it itself. -/
def ownDistance? (d : Distance) (x : Xml) : Option Int :=
  (x.child? "w:pPr").bind (·.childNumber? d.tag d.name)

/-- The style that a style is based on. -/
def base? (root x : Xml) : Option Xml :=
  (x.childAttribute? "w:basedOn" "w:val").bind fun id => root.style? id

/-- A distance of the paragraphs in a style: as the style says it, or else as the style that it is
based on says it, or else zero. -/
def distance? (d : Distance) (id : Text) (root : Xml) : Option Int :=
  (root.style? id).map fun x =>
    ((x.ownDistance? d).or ((root.base? x).bind (·.ownDistance? d))).getD 0

end Xml

/-! ## What is measured

Ten styles have distances of their own, and each is given as a `Measured`: headings have only a
spacing, lists only an indentation. -/

/-- A style of paragraphs with the distances that are set for it. -/
structure Measured where
  id : Text
  spacing : Spacing := {}
  indentation : Indentation := {}

/-- One of the four distances. -/
def Measured.distance (m : Measured) : Distance → Int
  | .before => m.spacing.before
  | .after => m.spacing.after
  | .left => m.indentation.left
  | .right => m.indentation.right

namespace Style

variable (s : Style)

/-- The style of running paragraphs. -/
def running : Measured where
  id := "Normal"
  spacing := s.paragraphs.spacing
  indentation := s.paragraphs.normal.indentation

/-- The styles that have distances of their own. -/
def measured : List Measured :=
  HeadingSlot.all.map (fun slot =>
    { id := slot.styleId, spacing := (s.headings.get slot).spacing }) ++
  [{ id := "CodeBlock", spacing := s.codeBlocks.spacing, indentation := s.codeBlocks.indentation },
    { id := "Quote", spacing := s.quotes.spacing, indentation := s.quotes.indentation },
    { id := "ListBullet", indentation := { left := s.lists.indentation } },
    { id := "ListNumber", indentation := { left := s.lists.indentation } }]

end Style

/-! ## What properties say

The properties of a style are a list of markup in which a spacing and an indentation may occur. `Say`
looks at nothing else of them. -/

/-- A distance as it is said: only if it is positive. -/
def positive? (n : Int) : Option Int := if 0 < n then some n else none

/-- A distance that is looked up in two places, neither of which says what is not positive. -/
theorem getD_positive?_or_positive? (own base : Int) :
    ((positive? own).or (positive? base)).getD 0 = if 0 < own then own else max base 0 := by
  unfold positive?
  by_cases hown : 0 < own
  · rw [if_pos hown, if_pos hown, Option.some_or, Option.getD_some]
  · rw [if_neg hown, if_neg hown, Option.none_or]
    split_ifs with hbase
    · exact (Int.max_eq_left (Int.le_of_lt hbase)).symm
    · exact (Int.max_eq_right (Int.not_lt.mp hbase)).symm

namespace Markup

/-- The properties say these distances as far as they are positive, and no other distances. -/
def Say (properties : List Markup) (m : Measured) : Prop :=
  ∀ d : Distance, ((pick d.tag properties).bind (·.attribute? d.name)).bind Text.toInt?
    = positive? (m.distance d)

/-- A distance is read as it is said. -/
theorem toInt?_ifPositive (name : String) (n : Int) :
    (written? name (Attribute.ifPositive name n)).bind Text.toInt? = positive? n := by
  unfold Attribute.ifPositive positive?
  split <;> simp [Attribute.int]

/-- Properties say the spacing and the indentation that are written into them. -/
theorem say_of_pick {properties : List Markup} {m : Measured} (lineSpacing : LineSpacing)
    (hspacing : pick "w:spacing" properties = pick "w:spacing" (m.spacing.markup lineSpacing))
    (hindentation : pick "w:ind" properties = pick "w:ind" m.indentation.markup) :
    Say properties m := by
  obtain ⟨line, hline, hmarkup⟩ := m.spacing.exists_markup_eq lineSpacing
  rw [hmarkup] at hspacing
  intro d
  cases d with
  -- the rule for lines stands in the same tag, under other names
  | before | after =>
    simp [Distance.tag, Distance.name, Measured.distance, hspacing, bind_pick_unlessBare,
      written?_ifPositive_of_ne, hline.other, toInt?_ifPositive]
  | left | right =>
    simp [Distance.tag, Distance.name, Measured.distance, hindentation, Indentation.markup,
      bind_pick_unlessBare, written?_ifPositive_of_ne, written?_ifPresent_of_ne, toInt?_ifPositive]

/-- The markup is a style based on that of running paragraphs, and says these distances. -/
def Sets (markup : Markup) (m : Measured) : Prop :=
  ∃ x, markup.view = [x] ∧ x.styleId? = some m.id ∧
    x.childAttribute? "w:basedOn" "w:val" = some (Text.ofString "Normal") ∧
    ∀ d : Distance, x.ownDistance? d = positive? (m.distance d)

/-- A definition with these properties in it sets what they say. -/
theorem sets_styleDefinition {type : String} {id : Text} {spacing : Spacing}
    {indentation : Indentation} (hid : id.unescape = id) (before : List Markup)
    {after properties : List Markup} (hbefore : pick "w:pPr" before = none)
    (hbase : pick "w:basedOn" before = some (node "w:basedOn" [⟨"w:val", "Normal"⟩] []))
    (hsay : Say properties { id, spacing, indentation }) :
    (styleDefinition type id (before ++ .element "w:pPr" [] properties :: after)).Sets
      { id, spacing, indentation } := by
  have hnormal : (Text.ofString "Normal").unescape = "Normal" := by decide
  refine ⟨_, view_element _ _ _, styleId?_styleDefinition hid _, ?_, fun d => ?_⟩
  · simp [childAttribute?, hbase, hnormal]
  · rw [← hsay d]
    simp [ownDistance?, childNumber?, childAttribute?, hbefore]

end Markup

/-! ## What styles set

One lemma for each writer of styles, from what it writes for the spacing and the indentation. -/

section Emitters

/-- A heading style sets its spacing. -/
theorem HeadingStyle.sets_markup (s : HeadingStyle) (slot : HeadingSlot) :
    (s.markup slot.level).Sets { id := slot.styleId, spacing := s.spacing } := by
  -- the flags and the outline level stand around the spacing
  have hsay : Say ((if s.keepWithNext then [.empty "w:keepNext" []] else []) ++
      (if s.keepLines then [.empty "w:keepLines" []] else []) ++ s.spacing.markup ++
      [.value "w:outlineLvl" (.ofInt (slot.level - 1))])
      { id := slot.styleId, spacing := s.spacing } :=
    say_of_pick {} (by simp [pick_ite]) (by simp [pick_ite]; rfl)
  exact sets_styleDefinition slot.unescape_styleId [_, _, _, _, _] (by simp) (by simp)
    hsay

/-- That of code blocks sets both. -/
theorem CodeBlockStyle.sets_markup (s : CodeBlockStyle) :
    s.markup.Sets { id := "CodeBlock", spacing := s.spacing, indentation := s.indentation } :=
  sets_styleDefinition (by decide) [_, _] (by simp) (by simp)
    (say_of_pick {} (by simp) (by simp))

/-- That of quotes, too. -/
theorem QuoteStyle.sets_markup (s : QuoteStyle) :
    s.markup.Sets { id := "Quote", spacing := s.spacing, indentation := s.indentation } :=
  sets_styleDefinition (by decide) [_, _] (by simp) (by simp)
    (say_of_pick {} (by simp) (by simp))

/-- Both styles of lists set one indentation. -/
theorem ListStyle.exists_sets_markup (s : ListStyle) :
    ∃ bullet numbered, s.markup = [bullet, numbered] ∧
      bullet.Sets { id := "ListBullet", indentation := { left := s.indentation } } ∧
      numbered.Sets { id := "ListNumber", indentation := { left := s.indentation } } := by
  have hsay : ∀ id : Text, Say ({ left := s.indentation : Indentation }).markup
      { id, indentation := { left := s.indentation } } :=
    fun id => say_of_pick {} (by simp; rfl) rfl
  exact ⟨_, _, rfl,
    sets_styleDefinition (by decide) [_, _] (by simp) (by simp) (hsay _),
    sets_styleDefinition (by decide) [_, _] (by simp) (by simp) (hsay _)⟩

end Emitters

/-! ## The part

Each of these styles is one of the definitions of the part, and identifiers are not used twice, so a
reader who looks for one finds it. -/

namespace Style

variable (s : Style)

/-- The style of running paragraphs is found, and says its own distances. -/
theorem exists_style?_running : ∃ x, s.root.style? "Normal" = some x ∧
    ∀ d : Distance, x.ownDistance? d = positive? (s.running.distance d) := by
  obtain ⟨x, p, hview, hid, hp, -, hchild⟩ := s.paragraphs.exists_view_markup s.lineSpacing
  have hmem : s.paragraphs.markup s.lineSpacing ∈ s.definitions := by simp [definitions]
  have hsay : Say (s.paragraphs.spacing.markup s.lineSpacing ++
      s.paragraphs.normal.indentation.markup ++
      if s.paragraphs.normal.alignment = .left then []
      else [.value "w:jc" s.paragraphs.normal.alignment.name]) s.running :=
    say_of_pick s.lineSpacing (by simp [running, pick_ite]) (by simp [running, pick_ite])
  refine ⟨x, s.style?_root hmem hview hid, fun d => ?_⟩
  rw [← hsay d, ownDistance?, hp, Option.bind_some, childNumber?, childAttribute?, hchild]

/-- Each of these styles is defined. -/
theorem exists_sets {m : Measured} (h : m ∈ s.measured) :
    ∃ markup ∈ s.definitions, markup.Sets m := by
  obtain ⟨bullet, numbered, heq, hbullet, hnumbered⟩ := s.lists.exists_sets_markup
  -- both styles of lists are definitions
  have hlist : ∀ markup ∈ [bullet, numbered], markup ∈ s.definitions := by
    intro markup hmarkup
    simp only [definitions, List.mem_append, heq]
    tauto
  rcases List.mem_append.mp h with h | h
  · obtain ⟨slot, -, rfl⟩ := List.mem_map.mp h
    have hmem : (s.headings.get slot).markup slot.level ∈ s.headings.markup := by
      cases slot <;>
        simp [HeadingStyles.markup, HeadingStyles.get, HeadingStyles.toList, HeadingSlot.level]
    exact ⟨_, by simp [definitions, hmem], (s.headings.get slot).sets_markup slot⟩
  · simp only [List.mem_cons, List.not_mem_nil, or_false] at h
    rcases h with rfl | rfl | rfl | rfl
    · exact ⟨_, by simp [definitions], s.codeBlocks.sets_markup⟩
    · exact ⟨_, by simp [definitions], s.quotes.sets_markup⟩
    · exact ⟨_, hlist bullet (by simp), hbullet⟩
    · exact ⟨_, hlist numbered (by simp), hnumbered⟩

/-- A distance of a style is its own if that is positive, or else that of running paragraphs. -/
theorem distance?_root {m : Measured} (h : m ∈ s.measured) (d : Distance) :
    s.root.distance? d m.id
      = some (if 0 < m.distance d then m.distance d else max (s.running.distance d) 0) := by
  obtain ⟨markup, hmarkup, x, hview, hid, hbase, hown⟩ := s.exists_sets h
  obtain ⟨normal, hnormal, hinherited⟩ := s.exists_style?_running
  rw [distance?, s.style?_root hmarkup hview hid, Option.map_some, hown, base?, hbase,
    Option.bind_some, hnormal, Option.bind_some, hinherited, getD_positive?_or_positive?]

/-- What a reader of the styles part gets for the distances of a style: its own one if that is
positive, or else that of running paragraphs. So a distance that is not negative is the one that was
set for the style exactly if it is positive or running paragraphs have none. The part is read as this
root for names of permitted characters and colours that could stand in a value. -/
theorem distances_partText (es : List Element) :
    (∀ m ∈ s.measured, ∀ d : Distance,
      s.root.distance? d m.id
          = some (if 0 < m.distance d then m.distance d else max (s.running.distance d) 0) ∧
        (0 ≤ m.distance d → (s.root.distance? d m.id = some (m.distance d)
          ↔ 0 < m.distance d ∨ s.running.distance d ≤ 0))) ∧
      ((∀ font ∈ s.fonts, ∀ c ∈ font.name, c.isXmlChar = true) →
        (∀ t ∈ s.styleColors, ∀ c ∈ t, c ≠ '<' ∧ c ≠ '&' ∧ c ≠ '"') →
        Xml.read? (s.partText es .styles) = some s.root) := by
  refine ⟨fun m hm d => ⟨s.distance?_root hm d, fun hown => ?_⟩, s.read?_partText es⟩
  rw [s.distance?_root hm d, Option.some.injEq]
  split_ifs with hpositive
  · simp [hpositive]
  · -- a distance that is not positive is not written; a zero is taken from the running style then
    have hzero : m.distance d = 0 := Int.le_antisymm (Int.not_lt.mp hpositive) hown
    rw [hzero]
    omega

/-- Space after running paragraphs, and headings without. -/
def spacedStyle : Style where
  paragraphs := { spacing := { after := 160 } }

/-- Headings that set no space have that of running paragraphs, and blocks of code have their own. -/
theorem distances_partText_spacedStyle :
    Xml.read? (spacedStyle.partText [] .styles) = some spacedStyle.root ∧
      spacedStyle.headings.h1.spacing.after = 0 ∧
      spacedStyle.root.distance? .after "Heading1" = some 160 ∧
      spacedStyle.codeBlocks.spacing.after = 120 ∧
      spacedStyle.root.distance? .after "CodeBlock" = some 120 := by
  have h := spacedStyle.distances_partText []
  have hheading :=
    (h.1 ⟨"Heading1", spacedStyle.headings.h1.spacing, {}⟩ List.mem_cons_self .after).1
  have hcode := (h.1 ⟨"CodeBlock", spacedStyle.codeBlocks.spacing,
    spacedStyle.codeBlocks.indentation⟩ (by simp [measured]) .after).1
  exact ⟨h.2 (by decide) (by decide), rfl, hheading, rfl, hcode⟩

end Style

end Wordsmith
