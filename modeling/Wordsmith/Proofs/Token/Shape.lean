import Wordsmith.Package.Part
import Wordsmith.Proofs.Token.Html
import Wordsmith.Token.Tree
import Wordsmith.Tree.Elements

/-!
# Well-shaped tokens

A token is well-shaped if its fields hold values of their kinds, it and the tokens below it. Its
type may be any, and tokens may be nested in any way: nothing asks whether a cell stands in a table.
The tree of well-shaped tokens exists, with one exception: an image without words of its own walks
through its content for them, and a number is nothing to walk through
(`not_forall_isWellShaped`).

* `Node.returns_ofTokens` — tokens that are well-shaped but for such images are read, one lemma for
  each function of the reader.
* `exists_parts_of_isReadable` — so a tree, its elements and all parts come of them.
-/

namespace Wordsmith

open Datum

/-! ## Kinds of values

A value of a token is of one of the kinds of `Datum`, and its shape says which kinds are allowed where. -/

namespace Datum

/-- The value is a record, with fields of its own. -/
def isRecord : Datum → Bool
  | .record _ => true
  | _ => false

/-- The value is a list. -/
def isList : Datum → Bool
  | .list _ => true
  | _ => false

/-- A text, of whatever words. -/
def isWords : Datum → Bool
  | .text _ => true
  | _ => false

/-- A number other than zero, or the value true: it counts as present, and has no items. -/
def isPresentScalar (d : Datum) : Bool :=
  match d with
  | .flag _ | .whole _ | .real _ => d.isTruthy
  | _ => false

end Datum

namespace Token

variable {fs : List (Text × Datum)} {ds : List Datum}

/-- The value of an attribute of a token; attributes that are no record have none. -/
def attribute? (name : String) (fs : List (Text × Datum)) : Option Datum :=
  match field? "attrs" fs with
  | some (.record attrs) => field? name attrs
  | _ => none

/-! ## Well-shaped tokens -/

/-- The content of a token is missing, or it is a list. -/
def hasListOrNone (fs : List (Text × Datum)) : Bool := (field? "children" fs).all isList

/-- The tokens below a token; content that is no list has none. -/
def below (fs : List (Text × Datum)) : List Datum :=
  match field? "children" fs with
  | some (.list ds) => ds
  | _ => []

/-- The content of a token is missing, or it is a list; a value that is no token has neither. -/
def isListed : Datum → Bool
  | .record fs => hasListOrNone fs
  | _ => false

/-- The token is the head or the body of a table. -/
def isSection (fs : List (Text × Datum)) : Bool :=
  ["table_head", "table_body"].any ((field? "type" fs).getD .absent).isText

/-- A part of a table has a list for its content or none. If the part is the head or the body, then
so has each token in it. -/
def isTablePart : Datum → Bool
  | .record fs => hasListOrNone fs && (!isSection fs || (below fs).all isListed)
  | _ => false

/-- The fields of a token hold values of their kinds. -/
structure HasShape (fs : List (Text × Datum)) : Prop where
  attributes : (field? "attrs" fs).all isRecord = true
  level : type? fs = some .heading →
    (attribute? "level" fs).all isWhole = true ∧ (field? "level" fs).all isWhole = true
  start : type? fs = some .list → (attribute? "start" fs).all isWhole = true
  attributeWords : ∀ name ∈ ["url", "title", "alt", "align", "info"],
    (attribute? name fs).all isWordsOrAbsent = true
  fieldWords : ∀ name ∈ ["link", "src", "alt", "info"],
    (field? name fs).all isWordsOrAbsent = true
  texts : ∀ name ∈ ["raw", "text"], (field? name fs).all isWords = true
  table : type? fs = some .table → hasListOrNone fs = true ∧ (below fs).all isTablePart = true

instance (fs : List (Text × Datum)) : Decidable (HasShape fs) :=
  decidable_of_iff
    ((field? "attrs" fs).all isRecord = true ∧
      (type? fs = some .heading →
        (attribute? "level" fs).all isWhole = true ∧ (field? "level" fs).all isWhole = true) ∧
      (type? fs = some .list → (attribute? "start" fs).all isWhole = true) ∧
      (∀ name ∈ ["url", "title", "alt", "align", "info"],
        (attribute? name fs).all isWordsOrAbsent = true) ∧
      (∀ name ∈ ["link", "src", "alt", "info"], (field? name fs).all isWordsOrAbsent = true) ∧
      (∀ name ∈ ["raw", "text"], (field? name fs).all isWords = true) ∧
      (type? fs = some .table → hasListOrNone fs = true ∧ (below fs).all isTablePart = true))
    ⟨fun ⟨hattrs, hlevel, hstart, hattrWords, hwords, htexts, htable⟩ =>
      ⟨hattrs, hlevel, hstart, hattrWords, hwords, htexts, htable⟩,
      fun h => ⟨h.attributes, h.level, h.start, h.attributeWords, h.fieldWords, h.texts, h.table⟩⟩

/-- A token and all tokens below it satisfy `P`. -/
inductive Throughout (P : List (Text × Datum) → Prop) : Datum → Prop where
  | mk {fs : List (Text × Datum)} (h : P fs) (hbelow : ∀ d ∈ below fs, Throughout P d) :
      Throughout P (.record fs)

/-- A token of the right shape, with tokens of the right shape below it. -/
def IsWellShaped : Datum → Prop := Throughout HasShape

/-- An image without words of its own has content that can be walked through. -/
def ImageHasContent (fs : List (Text × Datum)) : Prop :=
  type? fs = some .image → hasOwnWords fs = false →
    (field? "children" fs).all (!·.isPresentScalar) = true

instance (fs : List (Text × Datum)) : Decidable (ImageHasContent fs) :=
  inferInstanceAs (Decidable (_ → _ → _))

/-- A well-shaped token, with nothing but content that can be walked through in its images. -/
def IsReadable : Datum → Prop := Throughout fun fs => HasShape fs ∧ ImageHasContent fs

/-- What is below a token is smaller, so that the readers may go down to it. -/
theorem sizeOf_below_lt (fs : List (Text × Datum)) :
    sizeOf (below fs) < sizeOf (Datum.record fs) := by
  unfold below
  split
  · rename_i ds hds
    have := sizeOf_field?_lt hds
    simp only [Datum.list.sizeOf_spec, Datum.record.sizeOf_spec] at this ⊢
    omega
  · cases fs with
    | nil => decide
    | cons entry fs => simp +arith

/-- The attributes of a token of the right shape are missing, or a record. -/
theorem HasShape.exists_attributes (h : HasShape fs) :
    field? "attrs" fs = none ∨ ∃ attrs, field? "attrs" fs = some (.record attrs) := by
  have hrecord := h.attributes
  cases hattrs : field? "attrs" fs with
  | none => exact Or.inl rfl
  | some d =>
    rw [hattrs, Option.all_some] at hrecord
    cases d with
    | record attrs => exact Or.inr ⟨attrs, rfl⟩
    | _ => cases hrecord

/-- A readable token is a record with readable tokens below it, which are smaller. -/
theorem IsReadable.exists_fields {d : Datum} (h : IsReadable d) :
    ∃ fs, d = .record fs ∧ HasShape fs ∧ (∀ e ∈ below fs, IsReadable e) ∧
      sizeOf (below fs) < sizeOf d := by
  cases h with
  | mk hfs hbelow => exact ⟨_, rfl, hfs.1, hbelow, sizeOf_below_lt _⟩

/-- Content that is missing or a list is what there is below the token. -/
theorem children_of_hasListOrNone (h : hasListOrNone fs = true) :
    field? "children" fs = none ∨ field? "children" fs = some (.list (below fs)) := by
  unfold hasListOrNone at h
  unfold below
  cases hchildren : field? "children" fs with
  | none => exact Or.inl rfl
  | some d =>
    rw [hchildren, Option.all_some] at h
    cases d with
    | list ds => exact Or.inr rfl
    | _ => cases h

end Token

/-! ## Results

A reader is a sequence of actions. `Returns.bind` says of a sequence that it returns if its first
action does, and the rest does whatever the first one returned. -/

/-- The result is no error. -/
def Returns {α : Type} (x : Except ShapeError α) : Prop := ∃ a, x = .ok a

/-- A value is returned. -/
theorem Returns.pure {α : Type} (a : α) : Returns (Pure.pure a) := ⟨a, rfl⟩

/-- One action after another. -/
theorem Returns.bind {α β : Type} {x : Except ShapeError α} {f : α → Except ShapeError β}
    (hx : Returns x) (hf : ∀ a, x = .ok a → Returns (f a)) : Returns (x >>= f) := by
  obtain ⟨a, rfl⟩ := hx
  exact hf a rfl

namespace Node

open Token

variable {fs : List (Text × Datum)} {ds : List Datum}

/-! ## The fields of a token

The functions that read single fields. Each of them has an error for a value of the wrong kind, and
`HasShape` has the field that rules this error out. -/

/-- Attributes are missing or a record. -/
theorem returns_attributes (h : HasShape fs) : Returns (attributes fs) := by
  unfold attributes
  rcases h.exists_attributes with hattrs | ⟨attrs, hattrs⟩
  · rw [hattrs]
    exact ⟨[], rfl⟩
  · rw [hattrs]
    exact ⟨attrs, rfl⟩

/-- A box is looked for among them. -/
theorem returns_hasBox (h : HasShape fs) : Returns (hasBox fs) := by
  unfold hasBox
  rcases h.exists_attributes with hattrs | ⟨attrs, hattrs⟩
  · rw [hattrs]
    exact ⟨false, rfl⟩
  · rw [hattrs]
    exact ⟨_, rfl⟩

/-- The first of readable tokens is a record, which may be asked for its type. -/
theorem returns_startsWithCell (h : ∀ d ∈ ds, IsReadable d) : Returns (startsWithCell ds) := by
  cases ds with
  | nil => exact ⟨false, rfl⟩
  | cons d ds =>
    cases h d List.mem_cons_self
    exact ⟨_, rfl⟩

/-- Words can be gathered from whatever is no present number or truth value. -/
theorem returns_contentWords {d : Datum} (h : d.isPresentScalar = false) :
    Returns (contentWords d) := by
  cases d with
  | text t => exact ⟨t, rfl⟩
  | list ds => exact ⟨allWords ds, rfl⟩
  | record fs => exact ⟨fs.flatMap (·.1), rfl⟩
  | absent => exact ⟨[], rfl⟩
  -- a number or a truth value that does not count as present has no words
  | flag b => exact ⟨[], if_neg (by rw [show (Datum.flag b).isTruthy = false from h]; decide)⟩
  | whole n => exact ⟨[], if_neg (by rw [show (Datum.whole n).isTruthy = false from h]; decide)⟩
  | real x => exact ⟨[], if_neg (by rw [show (Datum.real x).isTruthy = false from h]; decide)⟩

/-- An image has its own words, or content that can be walked through. -/
theorem returns_imageWords {attrs : List (Text × Datum)} (htype : type? fs = some .image)
    (hcontent : ImageHasContent fs) (hattrs : attributes fs = .ok attrs) :
    Returns (imageWords attrs fs) := by
  unfold imageWords
  dsimp only
  split
  · rename_i hempty
    -- without words of its own the image asks its content for them
    have hwords : hasOwnWords fs = false := by
      unfold hasOwnWords
      rw [hattrs]
      simp [hempty]
    have hchildren := hcontent htype hwords
    split
    · rename_i d hd
      rw [hd, Option.all_some, Bool.not_eq_true'] at hchildren
      split
      · exact returns_contentWords hchildren
      · exact .pure []
    · exact .pure []
  · exact .pure _

/-! ## What is below a token

Each function that reads the content of a token returns if reading the tokens below it does. -/

/-- The children of a token, which may be a text, too. -/
theorem returns_content (h : Returns (ofTokens (below fs))) : Returns (content fs) := by
  rw [content_eq]
  unfold below at h
  cases hchildren : field? "children" fs with
  | none => exact .pure []
  | some d =>
    rw [hchildren] at h
    cases d with
    | list ds => simpa only [ofContent_eq] using h
    | _ =>
      simp only [ofContent_eq]
      exact .pure _

/-- The text of a token. -/
theorem returns_textContent (h : HasShape fs) : Returns (textContent fs) := by
  rw [textContent_eq]
  have htext := h.texts "text" (by decide)
  split
  · rename_i d hd
    rw [hd, Option.all_some] at htext
    cases d with
    | text t =>
      rw [ofContent_eq]
      exact .pure _
    | _ => cases htext
  · exact .pure []

/-- One of the two. -/
theorem returns_contentOrText (hshape : HasShape fs) (h : Returns (ofTokens (below fs))) :
    Returns (contentOrText fs) := by
  rw [contentOrText]
  split
  · exact returns_content h
  · exact returns_textContent hshape

/-- A task is its content with a tick. -/
theorem returns_taskItem (hshape : HasShape fs) (h : Returns (ofTokens (below fs))) :
    Returns (taskItem fs) := by
  rw [taskItem]
  exact (returns_content h).bind fun _ _ => (returns_attributes hshape).bind fun _ _ => .pure _

/-- A row is read if the cells below it are. -/
theorem returns_row (header : Bool) (hlist : hasListOrNone fs = true)
    (h : Returns (cells header (below fs))) : Returns (row header fs) := by
  rw [row_eq]
  rcases children_of_hasListOrNone hlist with hchildren | hchildren
  · rw [hchildren]
    exact .pure _
  · rw [hchildren]
    exact h.bind fun _ _ => .pure _

/-- A head or a body is read as one row or as many, depending on what stands first in it. -/
theorem returns_sectionRows (header : Bool) (hlist : hasListOrNone fs = true)
    (hfirst : Returns (startsWithCell (below fs))) (hcells : Returns (cells header (below fs)))
    (hrows : Returns (rows header (below fs))) : Returns (sectionRows header fs) := by
  rw [sectionRows_eq]
  rcases children_of_hasListOrNone hlist with hchildren | hchildren
  · rw [hchildren]
    exact .pure _
  · rw [hchildren]
    refine hfirst.bind fun isCell _ => ?_
    cases isCell with
    | true => exact hcells.bind fun _ _ => .pure _
    | false => exact hrows

/-- A table is read section by section. -/
theorem returns_tableRows (hlist : hasListOrNone fs = true)
    (h : Returns (sections (below fs))) : Returns (tableRows fs) := by
  rw [tableRows_eq]
  rcases children_of_hasListOrNone hlist with hchildren | hchildren
  · rw [hchildren]
    exact .pure _
  · rw [hchildren]
    exact h

/-- A token is read if the tokens below it are, and if it is no table or its rows are read. -/
theorem returns_token (hshape : HasShape fs) (himage : ImageHasContent fs)
    (h : Returns (ofTokens (below fs))) (htable : type? fs = some .table → Returns (tableRows fs)) :
    Returns (ofToken (.record fs)) := by
  have hcontent := returns_content h
  have hinline := returns_contentOrText hshape h
  have hattrs := returns_attributes hshape
  have htask := returns_taskItem hshape h
  rw [ofToken]
  -- one case for each type, those that read the same fields together
  cases htype : type? fs with
  | none =>
    dsimp only
    split <;> exact .pure _
  | some type =>
    cases type with
    | blockHtml | inlineHtml | thematicBreak | blankLine | lineBreak | softBreak | text
    | codeSpan => exact .pure _
    | paragraph => exact hinline.bind fun _ _ => .pure _
    | blockQuote | strong | emphasis | strikethrough => exact hcontent.bind fun _ _ => .pure _
    | blockCode => exact hattrs.bind fun _ _ => .pure _
    | heading | link => exact hattrs.bind fun _ _ => hinline.bind fun _ _ => .pure _
    | list => exact hattrs.bind fun _ _ => hcontent.bind fun _ _ => .pure _
    | taskListItem => exact htask
    | listItem =>
      refine (returns_hasBox hshape).bind fun box _ => ?_
      cases box with
      | true => exact htask
      | false => exact hcontent.bind fun _ _ => .pure _
    | table => exact (htable htype).bind fun _ _ => .pure _
    | image =>
      exact hattrs.bind fun attrs heq =>
        (returns_imageWords htype himage heq).bind fun _ _ => .pure _

/-! ## Sequences of tokens

One lemma for each function that walks through a sequence of tokens; the tokens below a token are
smaller than the token. -/

mutual

/-- A readable token is read. -/
theorem returns_ofToken (d : Datum) (h : IsReadable d) : Returns (ofToken d) :=
  match d, h with
  | .record fs, .mk ⟨hshape, himage⟩ hbelow =>
    returns_token hshape himage (returns_ofTokens (below fs) hbelow) fun htype =>
      returns_tableRows (hshape.table htype).1
        (returns_sections (below fs) hbelow (hshape.table htype).2)
termination_by sizeOf d
decreasing_by all_goals exact sizeOf_below_lt fs

/-- Readable tokens are read one after another. -/
theorem returns_ofTokens (ds : List Datum) (h : ∀ d ∈ ds, IsReadable d) :
    Returns (ofTokens ds) := by
  cases ds with
  | nil =>
    rw [ofTokens]
    exact .pure []
  | cons d ds =>
    rw [List.forall_mem_cons] at h
    rw [ofTokens]
    exact (returns_ofToken d h.1).bind fun _ _ => (returns_ofTokens ds h.2).bind fun _ _ => .pure _
termination_by sizeOf ds

/-- Whatever they are, readable tokens can be read as cells. -/
theorem returns_cells (header : Bool) (ds : List Datum) (h : ∀ d ∈ ds, IsReadable d) :
    Returns (cells header ds) := by
  match ds, h with
  | [], _ =>
    rw [cells]
    exact .pure []
  | d :: rest, h =>
    rw [List.forall_mem_cons] at h
    obtain ⟨fs, hd, hshape, hbelow, hsmaller⟩ := h.1.exists_fields
    rw [hd, cells]
    exact (returns_content (returns_ofTokens (below fs) hbelow)).bind fun _ _ =>
      (returns_attributes hshape).bind fun _ _ => (returns_cells header rest h.2).bind fun _ _ =>
        .pure _
termination_by sizeOf ds
decreasing_by all_goals simp only [List.cons.sizeOf_spec]; omega

/-- They can be read as rows if there are lists below them. -/
theorem returns_rows (header : Bool) (ds : List Datum) (h : ∀ d ∈ ds, IsReadable d)
    (hlisted : ds.all isListed = true) : Returns (rows header ds) := by
  match ds, h, hlisted with
  | [], _, _ =>
    rw [rows]
    exact .pure []
  | d :: rest, h, hlisted =>
    rw [List.forall_mem_cons] at h
    rw [List.all_cons, Bool.and_eq_true] at hlisted
    obtain ⟨fs, hd, -, hbelow, hsmaller⟩ := h.1.exists_fields
    rw [hd] at hlisted
    rw [hd, rows]
    exact (returns_row header hlisted.1 (returns_cells header (below fs) hbelow)).bind fun _ _ =>
      (returns_rows header rest h.2 hlisted.2).bind fun _ _ => .pure _
termination_by sizeOf ds
decreasing_by all_goals simp only [List.cons.sizeOf_spec]; omega

/-- And as the parts of a table, if each has the shape of one. -/
theorem returns_sections (ds : List Datum) (h : ∀ d ∈ ds, IsReadable d)
    (hparts : ds.all isTablePart = true) : Returns (sections ds) := by
  match ds, h, hparts with
  | [], _, _ =>
    rw [sections]
    exact .pure []
  | d :: rest, h, hparts =>
    rw [List.forall_mem_cons] at h
    rw [List.all_cons, Bool.and_eq_true] at hparts
    obtain ⟨fs, hd, -, hbelow, hsmaller⟩ := h.1.exists_fields
    have hcells := fun header => returns_cells header (below fs) hbelow
    have hrows := fun header => returns_rows header (below fs) hbelow
    have hrest := returns_sections rest h.2 hparts.2
    rw [hd, isTablePart, Bool.and_eq_true] at hparts
    obtain ⟨⟨hlist, hlisted⟩, -⟩ := hparts
    have hsection : ∀ header, isSection fs = true → Returns (sectionRows header fs) := by
      intro header hhead
      rw [hhead] at hlisted
      exact returns_sectionRows header hlist (returns_startsWithCell hbelow) (hcells header)
        (hrows header hlisted)
    -- whatever rows the part has, those of the other parts follow
    have hlater : ∀ {x : Except ShapeError (List Node)}, Returns x →
        Returns (do return (← x) ++ (← sections rest)) :=
      fun hx => hx.bind fun _ _ => hrest.bind fun _ _ => .pure _
    rw [hd, sections]
    split
    · rename_i name hname
      split_ifs with hhead hbody hrow
      · exact hlater (hsection true (by simp [isSection, hname, isText, hhead]))
      · exact hlater (hsection false (by simp [isSection, hname, isText, hbody]))
      · exact (returns_row false hlist (hcells false)).bind fun _ _ => hlater (.pure _)
      · exact hlater (.pure [])
    · exact hlater (.pure [])
termination_by sizeOf ds
decreasing_by all_goals simp only [List.cons.sizeOf_spec]; omega

end

/-- Readable tokens are the tokens of a document. -/
theorem returns_ofDocument (h : ∀ d ∈ ds, IsReadable d) : Returns (ofDocument (.list ds)) := by
  unfold ofDocument
  split
  · exact (returns_ofTokens ds h).bind fun _ _ => .pure _
  · exact .pure _

end Node

/-! ## Documents

Once there is a tree, nothing else can fail: elements and parts are total functions of it. -/

/-- Tokens that are readable at every depth give a tree, and the elements of the tree give all parts
of a package, whatever the style. -/
theorem exists_parts_of_isReadable (s : Style) {ds : List Datum}
    (h : ∀ d ∈ ds, Token.IsReadable d) :
    ∃ parts, (Node.ofDocument (.list ds)).map (fun document => s.parts document.elements)
        = .ok parts ∧ parts.map (·.1) = Part.all := by
  obtain ⟨document, hdocument⟩ := Node.returns_ofDocument h
  refine ⟨s.parts document.elements, by rw [hdocument]; rfl, ?_⟩
  unfold Style.parts
  rw [List.map_map]
  exact List.map_id _

/-- A cell without content. -/
def strayCell : Datum := .record [("type", .text "table_cell"), ("children", .absent)]

/-- A row with this cell. -/
def strayRow : Datum := .record [("type", .text "table_row"), ("children", .list [strayCell])]

/-- A head that holds rows instead of cells. -/
def strayHead : Datum :=
  .record [("type", .text "table_head"), ("children", .list [strayRow, strayRow])]

/-- Tokens in places where they mean nothing: a cell and an item outside tables and lists, a table
inside a line, content that is absent or a text, and a head with rows in it. -/
def strayTokens : List Datum :=
  [strayCell,
    .record [("type", .text "heading"), ("attrs", .record [("level", .whole (-3))]),
      ("children", .list
        [.record [("type", .text "list_item"), ("children", .text "x")],
          .record [("type", .text "image"), ("children", .text "words")],
          .record [("type", .text "table"), ("children", .list [strayHead])]])],
    .record [("type", .text "no such type"), ("raw", .text "y"), ("children", .whole 5)]]

/-- These tokens are readable, and all parts come of them. -/
theorem exists_parts_strayTokens :
    (∀ d ∈ strayTokens, Token.IsReadable d) ∧
      ∃ parts, (Node.ofDocument (.list strayTokens)).map (fun document =>
        Style.parts {} document.elements) = .ok parts ∧ parts.map (·.1) = Part.all := by
  -- a cell on its own, and a table head with rows in it
  have hcell : Token.IsReadable strayCell := .mk (by decide) nofun
  have hrow : Token.IsReadable strayRow :=
    .mk (by decide) (List.forall_mem_singleton.mpr hcell)
  have hhead : Token.IsReadable strayHead :=
    .mk (by decide) (List.forall_mem_cons.mpr ⟨hrow, List.forall_mem_singleton.mpr hrow⟩)
  have hreadable : ∀ d ∈ strayTokens, Token.IsReadable d := by
    refine List.forall_mem_cons.mpr ⟨hcell, List.forall_mem_cons.mpr ⟨.mk (by decide) ?_,
      List.forall_mem_singleton.mpr (.mk (by decide) nofun)⟩⟩
    refine List.forall_mem_cons.mpr ⟨.mk (by decide) nofun, List.forall_mem_cons.mpr
      ⟨.mk (by decide) nofun, List.forall_mem_singleton.mpr (.mk (by decide) ?_)⟩⟩
    exact List.forall_mem_singleton.mpr hhead
  exact ⟨hreadable, exists_parts_of_isReadable {} hreadable⟩

/-- A picture with a number for its content. -/
def numberedPicture : Datum := .record [("type", .text "image"), ("children", .whole 5)]

/-- The number in a well-shaped image without words keeps its tokens from being read. -/
theorem not_forall_isWellShaped :
    ¬ ∀ ds : List Datum, (∀ d ∈ ds, Token.IsWellShaped d) →
      ∃ document, Node.ofDocument (.list ds) = .ok document := by
  intro h
  have hshape : Token.IsWellShaped numberedPicture := .mk (by decide) nofun
  obtain ⟨document, hdocument⟩ := h [numberedPicture] (List.forall_mem_singleton.mpr hshape)
  have herror : Node.ofDocument (.list [numberedPicture]) = .error .noItems := by
    -- the error of the image is that of every list that it stands in
    have hpicture : Node.ofToken numberedPicture = .error .noItems := by
      rw [numberedPicture, Node.ofToken]
      rfl
    have htokens : Node.ofTokens [numberedPicture] = .error .noItems := by
      rw [Node.ofTokens, hpicture]
      rfl
    calc Node.ofDocument (.list [numberedPicture])
        = (do return { kind := .document, children := ← Node.ofTokens [numberedPicture] }) := rfl
      _ = .error .noItems := by rw [htokens]; rfl
  cases hdocument.symm.trans herror

end Wordsmith
