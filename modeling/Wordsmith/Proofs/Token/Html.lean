import Wordsmith.Package.Part
import Wordsmith.Proofs.Text.Literal
import Wordsmith.Proofs.Token.Reading
import Wordsmith.Proofs.Tree.Html

/-!
# Raw HTML in tokens

Raw HTML reaches the tree, but not what is made of the tree. So tokens that differ only in the raw
texts of HTML give the same package, with one exception: an image without words of its own takes its
words from the raw texts of its content, HTML included (`Node.ofToken_imageOfHtml`).
`Datum.eraseHtml` blanks the raw texts that have no effect; the tokens in such an image keep
theirs.

## The comparison

Two documents are compared after reading: `Node.withoutHtml` blanks the texts of HTML in a tree, and
`Node.Agree` says that two results are the same error or the same tree after that. Reading a token goes
through its fields and the tokens below it, so

* `field?_eraseFields` — which fields stay as they are,
* `ContentAgrees.token` — a token agrees if its content does, type by type,
* `listAgrees` — every list of tokens agrees, by induction on the tokens below the tokens.

What is made of the tree does not look at the texts of HTML (`Node.elements_withoutHtml`), so the parts
are equal.
-/

namespace Wordsmith

open Datum

/-! ## Tokens without HTML

A token is open if the tokens below it are read as tokens. Those below a closed token are read for
their raw texts, if at all, and must stay: in an image without words the raw text of HTML becomes a
part of the words. -/

namespace Token

/-- The token is raw HTML, as a block or inside a line. -/
def isHtml (fs : List (Text × Datum)) : Bool :=
  match type? fs with
  | some .blockHtml | some .inlineHtml => true
  | _ => false

/-- An image has words of its own, so that its content is not asked for them. -/
def hasOwnWords (fs : List (Text × Datum)) : Bool :=
  match attributes fs with
  | .ok attrs => !(attributeOr attrs fs "alt" "alt" (.text [])).textIfPresent.isEmpty
  | .error _ => true

/-- The tokens below this one are read as tokens, and not as words: it is no image that lacks words,
and none of the tokens that stand for their raw text. -/
def isOpen (fs : List (Text × Datum)) : Bool :=
  match type? fs with
  | some .image => hasOwnWords fs
  | some .text | some .codeSpan | some .blockCode | some .blockHtml | some .inlineHtml => false
  | _ => true

end Token

namespace Datum

open Token

mutual

/-- A token with the raw texts of HTML, its own and those below it, left blank. -/
def eraseHtml : Datum → Datum
  | .record fs => .record (eraseFields (isHtml fs) (isOpen fs) fs)
  | d => d

/-- Each token of a list without its HTML. -/
def eraseAllHtml : List Datum → List Datum
  | [] => []
  | d :: ds => d.eraseHtml :: eraseAllHtml ds

/-- The fields of a token, the raw text left blank if it is HTML, and the tokens below it without
their HTML if it is open. -/
def eraseFields (html opens : Bool) : List (Text × Datum) → List (Text × Datum)
  | [] => []
  | (key, .text t) :: fs =>
    (key, .text (if html && key.isLiteral "raw" then [] else t)) :: eraseFields html opens fs
  | (key, .list ds) :: fs =>
    (key, .list (if opens && key.isLiteral "children" then eraseAllHtml ds else ds)) ::
      eraseFields html opens fs
  | field :: fs => field :: eraseFields html opens fs

end

/-! ## Fields

Only two fields are changed, the raw text of HTML and the children of an open token. A field is looked
up by its name, so all others are found as before. -/

section Fields

variable {html opens : Bool}

/-- A key has one name. -/
theorem isLiteral_eq_false {key : Text} {name name' : String} (h : key.isLiteral name = true)
    (hne : name ≠ name') : key.isLiteral name' = false := by
  unfold Text.isLiteral at *
  rw [decide_eq_true_eq] at h
  rw [decide_eq_false_iff_not, h]
  exact fun heq => hne (Text.ofString_inj.mp heq)

/-- Fields other than the raw text and the tokens below stay. -/
theorem field?_eraseFields {name : String} (hraw : name ≠ "raw") (hchildren : name ≠ "children")
    (fs : List (Text × Datum)) : field? name (eraseFields html opens fs) = field? name fs := by
  induction fs with
  | nil => rfl
  | cons entry fs ih =>
    obtain ⟨key, d⟩ := entry
    by_cases hkey : key.isLiteral name = true
    · have hkeyRaw := isLiteral_eq_false hkey hraw
      have hkeyChildren := isLiteral_eq_false hkey hchildren
      cases d <;> simp [eraseFields, field?, hkey, hkeyRaw, hkeyChildren]
    · rw [Bool.not_eq_true] at hkey
      cases d <;> simpa [eraseFields, field?, hkey] using ih

/-- The tokens below an open token lose their HTML; any other value of that field stays. -/
def eraseContent : Datum → Datum
  | .list ds => .list (eraseAllHtml ds)
  | d => d

/-- The children are changed if the token is open. -/
theorem field?_children_eraseFields (fs : List (Text × Datum)) :
    field? "children" (eraseFields html opens fs)
      = (field? "children" fs).map fun d => if opens then eraseContent d else d := by
  induction fs with
  | nil => rfl
  | cons entry fs ih =>
    obtain ⟨key, d⟩ := entry
    by_cases hkey : key.isLiteral "children" = true
    · have hkeyRaw : key.isLiteral "raw" = false := isLiteral_eq_false hkey (by decide)
      cases d <;> cases opens <;> simp [eraseFields, field?, hkey, hkeyRaw, eraseContent]
    · rw [Bool.not_eq_true] at hkey
      cases d <;> simpa [eraseFields, field?, hkey] using ih

/-- The raw text stays if the token is no HTML. -/
theorem field?_raw_eraseFields (fs : List (Text × Datum)) :
    field? "raw" (eraseFields false opens fs) = field? "raw" fs := by
  induction fs with
  | nil => rfl
  | cons entry fs ih =>
    obtain ⟨key, d⟩ := entry
    by_cases hkey : key.isLiteral "raw" = true
    · have hkeyChildren : key.isLiteral "children" = false := isLiteral_eq_false hkey (by decide)
      cases d <;> simp [eraseFields, field?, hkey, hkeyChildren]
    · rw [Bool.not_eq_true] at hkey
      cases d <;> simpa [eraseFields, field?, hkey] using ih

/-- A token that is neither HTML nor open stays as it is. -/
theorem eraseFields_closed (fs : List (Text × Datum)) : eraseFields false false fs = fs := by
  induction fs with
  | nil => rfl
  | cons entry fs ih =>
    obtain ⟨key, d⟩ := entry
    cases d <;> simp [eraseFields, ih]

/-- A list keeps its length, so it stays empty or not. -/
theorem isTruthy_eraseContent (d : Datum) : (eraseContent d).isTruthy = d.isTruthy := by
  cases d with
  | list ds => cases ds <;> rfl
  | _ => rfl

end Fields

end Datum

/-! ## Results

Two results agree if they are the same error, or nodes that are the same but for the texts of HTML.
Agreement passes through a sequence of actions (`Agree.bind`), which is how the readers are written. -/

namespace Node

open Token

/-- The results are the same once `f` is applied to what they return. -/
def Agree {α β : Type} (f : α → β) (x y : Except ShapeError α) : Prop := x.map f = y.map f

namespace Agree

variable {α β γ δ : Type} {f : α → β} {g : γ → δ}

/-- A result agrees with itself. -/
theorem refl (f : α → β) (x : Except ShapeError α) : Agree f x x := rfl

/-- Returned values agree if they are the same after `f`. -/
theorem ok {a b : α} (h : f a = f b) : Agree f (.ok a) (.ok b) := congrArg Except.ok h

/-- If the first steps agree and the second do on values that agree, then the whole does. -/
theorem bind {x y : Except ShapeError α} {k k' : α → Except ShapeError γ} (h : Agree f x y)
    (hk : ∀ a b, f a = f b → Agree g (k a) (k' b)) : Agree g (x >>= k) (y >>= k') := by
  -- an error agrees with the same error alone
  cases x with
  | error e =>
    cases y with
    | error e' =>
      cases h
      exact rfl
    | ok b => cases h
  | ok a =>
    cases y with
    | error e' => cases h
    | ok b => exact hk a b (Except.ok.inj h)

/-- After the same result, only what follows has to agree. -/
theorem bind_same {x : Except ShapeError α} {k k' : α → Except ShapeError γ}
    (hk : ∀ a, Agree g (k a) (k' a)) : Agree g (x >>= k) (x >>= k') :=
  bind (refl id x) fun a b (hab : a = b) => hab ▸ hk a

end Agree

/-! ## Reading the fields of a token

The type, the attributes and the box of a token do not depend on its raw text nor on its children. -/

variable {fs : List (Text × Datum)} {html opens : Bool}

theorem type?_eraseFields : type? (eraseFields html opens fs) = type? fs := by
  unfold type?
  rw [field?_eraseFields (by decide) (by decide)]

theorem attributes_eraseFields : attributes (eraseFields html opens fs) = attributes fs := by
  unfold attributes
  rw [field?_eraseFields (by decide) (by decide)]

theorem hasBox_eraseFields : hasBox (eraseFields html opens fs) = hasBox fs := by
  unfold hasBox
  rw [field?_eraseFields (by decide) (by decide)]

theorem attributeOr_eraseFields {attrs : List (Text × Datum)} {name fallback : String}
    {default : Datum} (hraw : fallback ≠ "raw") (hchildren : fallback ≠ "children") :
    attributeOr attrs (eraseFields html opens fs) name fallback default
      = attributeOr attrs fs name fallback default := by
  unfold attributeOr
  rw [field?_eraseFields hraw hchildren]

/-! ## What is below a token

A list of tokens can be read as tokens, as the sections of a table, as rows or as cells. `ListAgrees`
has all four, since the same list is erased for each of them. -/

/-- A list of tokens is read as the same nodes without its HTML, whatever it is the content of. -/
structure ListAgrees (ds : List Datum) : Prop where
  tokens : Agree allWithoutHtml (ofTokens (eraseAllHtml ds)) (ofTokens ds)
  sections : Agree allWithoutHtml (sections (eraseAllHtml ds)) (sections ds)
  rows : ∀ header, Agree allWithoutHtml (rows header (eraseAllHtml ds)) (rows header ds)
  cells : ∀ header, Agree allWithoutHtml (cells header (eraseAllHtml ds)) (cells header ds)

/-- What stands below the token agrees, if it is a list. -/
def ContentAgrees (fs : List (Text × Datum)) : Prop :=
  ∀ ds, field? "children" fs = some (.list ds) → ListAgrees ds

/-- What is below a token stays as it is, or it is a list of tokens that lose their HTML. -/
theorem children_eraseFields (html opens : Bool) (fs : List (Text × Datum)) :
    field? "children" (eraseFields html opens fs) = field? "children" fs ∨
      ∃ ds, field? "children" fs = some (.list ds) ∧
        field? "children" (eraseFields html opens fs) = some (.list (eraseAllHtml ds)) := by
  rw [field?_children_eraseFields]
  cases field? "children" fs with
  | none => exact Or.inl rfl
  | some d =>
    cases opens with
    | false => exact Or.inl rfl
    | true =>
      cases d with
      | list ds => exact Or.inr ⟨ds, rfl, rfl⟩
      | _ => exact Or.inl rfl

/-- The type of the first token stays. -/
theorem startsWithCell_eraseAllHtml (ds : List Datum) :
    startsWithCell (eraseAllHtml ds) = startsWithCell ds := by
  cases ds with
  | nil => rfl
  | cons d ds =>
    rw [eraseAllHtml]
    cases d with
    | record fs =>
      rw [eraseHtml, startsWithCell, startsWithCell, field?_eraseFields (by decide) (by decide)]
    | _ => rfl

namespace ContentAgrees

/-- The content of a token, as nodes. -/
theorem content (h : ContentAgrees fs) (html opens : Bool) :
    Agree allWithoutHtml (content (eraseFields html opens fs)) (content fs) := by
  rw [content_eq, content_eq]
  rcases children_eraseFields html opens fs with heq | ⟨ds, hds, heq⟩
  · rw [heq]
    exact .refl _ _
  · rw [heq, hds]
    simp only [ofContent_eq]
    exact (h ds hds).tokens

/-- Inline content, which may stand in another field that is not changed. -/
theorem contentOrText (h : ContentAgrees fs) (html opens : Bool) :
    Agree allWithoutHtml (contentOrText (eraseFields html opens fs)) (contentOrText fs) := by
  have htext : textContent (eraseFields html opens fs) = textContent fs := by
    rw [textContent_eq, textContent_eq, field?_eraseFields (by decide) (by decide)]
  -- whether there are children at all does not change
  have htruthy : ((field? "children" (eraseFields html opens fs)).getD .absent).isTruthy
      = ((field? "children" fs).getD .absent).isTruthy := by
    rcases children_eraseFields html opens fs with heq | ⟨ds, hds, heq⟩
    · rw [heq]
    · rw [heq, hds]
      cases ds <;> rfl
  rw [Node.contentOrText, Node.contentOrText, htruthy, htext]
  split
  · exact h.content html opens
  · exact .refl _ _

/-- A task has the box that its attributes tell. -/
theorem taskItem (h : ContentAgrees fs) (html opens : Bool) :
    Agree (Option.map withoutHtml) (taskItem (eraseFields html opens fs)) (taskItem fs) := by
  rw [Node.taskItem, Node.taskItem, attributes_eraseFields]
  refine (h.content html opens).bind fun a b hab => .bind_same fun attrs => .ok ?_
  simp [withoutHtml, hab]

/-- A row of a table. -/
theorem row (h : ContentAgrees fs) (header html opens : Bool) :
    Agree withoutHtml (row header (eraseFields html opens fs)) (row header fs) := by
  rw [row_eq, row_eq]
  rcases children_eraseFields html opens fs with heq | ⟨ds, hds, heq⟩
  · rw [heq]
    exact .refl _ _
  · rw [heq, hds]
    refine ((h ds hds).cells header).bind fun a b hab => .ok ?_
    simp [withoutHtml, hab]

/-- The rows of a head or a body, or the one row that its cells make. -/
theorem sectionRows (h : ContentAgrees fs) (header html opens : Bool) :
    Agree allWithoutHtml (sectionRows header (eraseFields html opens fs))
      (sectionRows header fs) := by
  rw [sectionRows_eq, sectionRows_eq]
  -- the content is no list and stays, or it is a list of tokens
  rcases children_eraseFields html opens fs with heq | ⟨ds, hds, heq⟩
  · rw [heq]
    exact .refl _ _
  · rw [heq, hds]
    dsimp only
    rw [startsWithCell_eraseAllHtml]
    -- whether the section is one row is read off the types, which stay
    refine .bind_same fun isCell => ?_
    cases isCell with
    | true =>
      refine ((h ds hds).cells header).bind fun a b hab => .ok ?_
      simp [allWithoutHtml, withoutHtml, hab]
    | false => exact (h ds hds).rows header

/-- The rows of a table. -/
theorem tableRows (h : ContentAgrees fs) (html opens : Bool) :
    Agree allWithoutHtml (tableRows (eraseFields html opens fs)) (tableRows fs) := by
  rw [tableRows_eq, tableRows_eq]
  rcases children_eraseFields html opens fs with heq | ⟨ds, hds, heq⟩
  · rw [heq]
    exact .refl _ _
  · rw [heq, hds]
    exact (h ds hds).sections

/-- A node of this kind with the content of a token. -/
theorem holder (h : ContentAgrees fs) (html opens : Bool) (kind : NodeKind) :
    Agree (Option.map withoutHtml)
      (do return some { kind, children := ← Node.content (eraseFields html opens fs) })
      (do return some { kind, children := ← Node.content fs }) :=
  (h.content html opens).bind fun a b hab => .ok (by simp [withoutHtml, hab])

end ContentAgrees

/-- The content of an image that has words of its own is not looked at. -/
theorem imageWords_eraseFields {attrs : List (Text × Datum)} (hattrs : attributes fs = .ok attrs)
    (hwords : hasOwnWords fs = true) :
    imageWords attrs (eraseFields html opens fs) = imageWords attrs fs := by
  unfold hasOwnWords at hwords
  rw [hattrs] at hwords
  dsimp only at hwords
  rw [Bool.not_eq_true'] at hwords
  unfold imageWords
  rw [attributeOr_eraseFields (by decide) (by decide)]
  dsimp only
  rw [hwords]
  rfl

/-- A token that is neither HTML nor open loses nothing. -/
theorem eraseHtml_closed (hhtml : isHtml fs = false) (hopen : isOpen fs = false) :
    eraseHtml (.record fs) = .record fs := by
  rw [eraseHtml, hhtml, hopen, eraseFields_closed]

/-- An image is read as the same node: either its content is not looked at, or it stays. -/
theorem agree_image (htype : type? fs = some .image) :
    Agree (Option.map withoutHtml) (ofToken (eraseHtml (.record fs))) (ofToken (.record fs)) := by
  cases hwords : hasOwnWords fs with
  -- without words of its own the image is closed
  | false =>
    have hopen : isOpen fs = false := by rw [isOpen, htype]; exact hwords
    rw [eraseHtml_closed (by rw [isHtml, htype]) hopen]
    exact .refl _ _
  | true =>
    rw [eraseHtml, ofToken, ofToken, type?_eraseFields, htype]
    dsimp only
    rw [attributes_eraseFields]
    cases hattrs : attributes fs with
    | error e => exact .refl _ _
    | ok attrs =>
      show Agree _ (imageWords attrs (eraseFields _ _ fs) >>= _) (imageWords attrs fs >>= _)
      rw [imageWords_eraseFields hattrs hwords, attributeOr_eraseFields (by decide) (by decide)]
      exact .refl _ _

/-- A token is read as the same node without its HTML, if the tokens below it are. -/
theorem ContentAgrees.token (h : ContentAgrees fs) :
    Agree (Option.map withoutHtml) (ofToken (eraseHtml (.record fs))) (ofToken (.record fs)) := by
  by_cases himage : type? fs = some .image
  · exact agree_image himage
  rw [eraseHtml, ofToken, ofToken, type?_eraseFields]
  cases htype : type? fs with
  -- a token of unknown type is read by its raw text or its text, which stay
  | none =>
    have hhtml : isHtml fs = false := by rw [isHtml, htype]
    rw [hhtml]
    dsimp only
    rw [field?_raw_eraseFields, field?_eraseFields (by decide) (by decide)]
    exact .refl _ _
  | some type =>
    cases type with
    | blockHtml | inlineHtml => exact .ok (by simp [withoutHtml])
    | thematicBreak | blankLine | lineBreak | softBreak => exact .refl _ _
    | text | codeSpan | blockCode =>
      -- these show their raw text, and stay as they are
      have hclosed : eraseFields (isHtml fs) (isOpen fs) fs = fs := by
        rw [isHtml, isOpen, htype]
        exact eraseFields_closed fs
      rw [hclosed]
      exact .refl _ _
    | paragraph =>
      exact (h.contentOrText _ _).bind fun a b hab => .ok (by simp [withoutHtml, hab])
    | blockQuote => exact h.holder _ _ .quote
    | strong => exact h.holder _ _ .bold
    | emphasis => exact h.holder _ _ .italic
    | strikethrough => exact h.holder _ _ .strikethrough
    | table => exact (h.tableRows _ _).bind fun a b hab => .ok (by simp [withoutHtml, hab])
    | taskListItem => exact h.taskItem _ _
    | listItem =>
      dsimp only
      rw [hasBox_eraseFields]
      refine .bind_same fun box => ?_
      cases box with
      | true => exact h.taskItem _ _
      | false => exact h.holder _ _ .listItem
    | list =>
      dsimp only
      rw [attributes_eraseFields]
      refine .bind_same fun attrs => (h.content _ _).bind fun a b hab => .ok ?_
      simp [withoutHtml, hab]
    | heading | link =>
      dsimp only
      rw [attributes_eraseFields]
      refine .bind_same fun attrs => ?_
      rw [attributeOr_eraseFields (by decide) (by decide)]
      exact (h.contentOrText _ _).bind fun a b hab => .ok (by simp [withoutHtml, hab])
    | image => exact absurd htype himage

/-! ## Sequences of tokens

The four ways to read a list go through it token by token. -/

/-- Nodes in a row agree if both rows do. -/
theorem append_withoutHtml {as bs ns ms : List Node} (h : allWithoutHtml as = allWithoutHtml bs)
    (hrest : allWithoutHtml ns = allWithoutHtml ms) :
    allWithoutHtml (as ++ ns) = allWithoutHtml (bs ++ ms) := by
  rw [allWithoutHtml_eq, allWithoutHtml_eq] at *
  rw [List.map_append, List.map_append, h, hrest]

/-- A node or none, as a list. -/
theorem toList_withoutHtml {a b : Option Node} (h : a.map withoutHtml = b.map withoutHtml) :
    allWithoutHtml a.toList = allWithoutHtml b.toList := by
  rw [allWithoutHtml_eq, allWithoutHtml_eq, ← Option.toList_map, ← Option.toList_map, h]

/-- Two results that are put together agree if both do. -/
theorem Agree.append {x y x' y' : Except ShapeError (List Node)} (h : Agree allWithoutHtml x y)
    (hrest : Agree allWithoutHtml x' y') :
    Agree allWithoutHtml (do return (← x) ++ (← x')) (do return (← y) ++ (← y')) :=
  h.bind fun _ _ hab => hrest.bind fun _ _ hns => .ok (append_withoutHtml hab hns)

/-- What is no record is no token, whatever it stands in. -/
theorem listAgrees_cons_of_ne {d : Datum} {ds : List Datum} (h : ∀ fs, d ≠ .record fs) :
    ListAgrees (d :: ds) := by
  have herase : d.eraseHtml = d := by
    rw [eraseHtml]
    exact h
  refine ⟨?_, ?_, fun header => ?_, fun header => ?_⟩
  · rw [eraseAllHtml, herase, ofTokens_cons_of_ne h, ofTokens_cons_of_ne h]
    exact .refl _ _
  · rw [eraseAllHtml, herase, sections_cons_of_ne h, sections_cons_of_ne h]
    exact .refl _ _
  · rw [eraseAllHtml, herase, rows_cons_of_ne h, rows_cons_of_ne h]
    exact .refl _ _
  · rw [eraseAllHtml, herase, cells_cons_of_ne h, cells_cons_of_ne h]
    exact .refl _ _

/-- A token in front of a list, whatever the list is read as. -/
theorem listAgrees_cons {ds : List Datum} (hcontent : ContentAgrees fs) (hrest : ListAgrees ds) :
    ListAgrees (.record fs :: ds) := by
  have hnone : Agree allWithoutHtml (pure []) (pure []) := .refl _ _
  refine ⟨?_, ?_, fun header => ?_, fun header => ?_⟩
  · rw [eraseAllHtml, ofTokens, ofTokens]
    exact hcontent.token.bind fun a b hab => hrest.tokens.bind fun ns ms hns =>
      .ok (append_withoutHtml (toList_withoutHtml hab) hns)
  · rw [eraseAllHtml, eraseHtml, sections, sections, field?_eraseFields (by decide) (by decide)]
    -- a part of a table is a head, a body, a row of its own, or nothing
    split
    · split
      · exact (hcontent.sectionRows _ _ _).append hrest.sections
      · split
        · exact (hcontent.sectionRows _ _ _).append hrest.sections
        · split
          · exact (hcontent.row _ _ _).bind fun a b hab => hrest.sections.bind fun ns ms hns =>
              .ok (by simp [allWithoutHtml, hab, hns])
          · exact hnone.append hrest.sections
    · exact hnone.append hrest.sections
  · rw [eraseAllHtml, eraseHtml, rows, rows]
    exact (hcontent.row _ _ _).bind fun a b hab => (hrest.rows header).bind fun ns ms hns =>
      .ok (by simp [allWithoutHtml, hab, hns])
  · rw [eraseAllHtml, eraseHtml, cells, cells, attributes_eraseFields]
    exact (hcontent.content _ _).bind fun a b hab => .bind_same fun attrs =>
      (hrest.cells header).bind fun ns ms hns =>
        .ok (by simp [allWithoutHtml, withoutHtml, hab, hns])

/-- A list of tokens agrees if the content of each token in it does. -/
theorem listAgrees_of_content {ds : List Datum}
    (h : ∀ fs, .record fs ∈ ds → ContentAgrees fs) : ListAgrees ds := by
  induction ds with
  | nil => exact ⟨.refl _ _, .refl _ _, fun _ => .refl _ _, fun _ => .refl _ _⟩
  | cons d ds ih =>
    have hrest := ih fun fs hfs => h fs (List.mem_cons_of_mem d hfs)
    by_cases hd : ∃ fs, d = .record fs
    · obtain ⟨fs, rfl⟩ := hd
      exact listAgrees_cons (h fs List.mem_cons_self) hrest
    · exact listAgrees_cons_of_ne fun fs heq => hd ⟨fs, heq⟩

/-- Every list of tokens is read as the same nodes without its HTML. The induction goes down to the
tokens below the tokens. -/
theorem listAgrees (ds : List Datum) : ListAgrees ds := by
  induction ds using sequence_induction with
  | step ds ih => exact listAgrees_of_content fun fs hfs cs hcs => ih fs hfs "children" cs hcs

/-! ## Documents

The answer of the tokenizer is a list of tokens, and the tree of the document holds what is read of it. -/

/-- The document of a list of tokens is that of the tokens without their HTML, but for the texts of
HTML in it. -/
theorem ofDocument_eraseAllHtml (ds : List Datum) :
    Agree withoutHtml (ofDocument (.list (eraseAllHtml ds))) (ofDocument (.list ds)) := by
  have hpresent : (Datum.list (eraseAllHtml ds)).isTruthy = (Datum.list ds).isTruthy :=
    isTruthy_eraseContent (.list ds)
  unfold ofDocument
  rw [hpresent]
  split
  · exact (listAgrees ds).tokens.bind fun a b hab => .ok (by simp [withoutHtml, hab])
  · exact .refl _ _

/-- Of documents that agree the elements are the same, and so is what is made of them. -/
theorem Agree.map_elements {x y : Except ShapeError Node} (h : Agree withoutHtml x y) {α : Type}
    (f : List Element → α) :
    x.map (fun document => f document.elements) = y.map fun document => f document.elements := by
  -- the elements do not depend on the texts of HTML
  have helements : ∀ z : Except ShapeError Node, z.map (fun document => f document.elements)
      = (z.map withoutHtml).map fun document => f document.elements := by
    intro z
    cases z with
    | error e => rfl
    | ok document => exact congrArg (fun es => Except.ok (f es)) document.elements_withoutHtml.symm
  rw [helements x, helements y, h]

/-- An image without words of its own has the raw texts of its content as words, those of HTML
included. -/
theorem ofToken_imageOfHtml (url t : Text) :
    ofToken (.record [("type", .text "image"), ("attrs", .record [("url", .text url)]),
      ("children", .list [.record [("type", .text "inline_html"), ("raw", .text t)]])])
      = .ok (some { kind := .image, url, alt := t }) := by
  -- the words of the content are its raw texts, one after the other
  have hwords : allWords [.record [("type", .text "inline_html"), ("raw", .text t)]] = t := by
    rw [allWords, allWords, words]
    exact List.append_nil t
  have himage : imageWords [("url", .text url)] [("type", .text "image"),
      ("attrs", .record [("url", .text url)]),
      ("children", .list [.record [("type", .text "inline_html"), ("raw", .text t)]])] = .ok t :=
    congrArg Except.ok hwords
  refine (ofToken_image ?_ ?_ himage).trans (congrArg (fun url =>
    Except.ok (some { kind := .image, url, alt := t : Node })) (textIfPresent_text url))
  · rfl
  · rfl

end Node

/-- Tokens that are the same without the raw texts of HTML give the same parts, or the same
error. -/
theorem parts_eq_of_eraseAllHtml (s : Style) (ds ds' : List Datum)
    (h : eraseAllHtml ds = eraseAllHtml ds') :
    (Node.ofDocument (.list ds)).map (fun document => s.parts document.elements)
      = (Node.ofDocument (.list ds')).map (fun document => s.parts document.elements) := by
  have hds := (Node.ofDocument_eraseAllHtml ds).map_elements s.parts
  have hds' := (Node.ofDocument_eraseAllHtml ds').map_elements s.parts
  rw [← hds, ← hds', h]

/-- A token of this type with this raw text. -/
def Token.rawToken (type t : Text) : Datum := .record [("type", .text type), ("raw", .text t)]

/-- A token of this type with these tokens below it, and words of its own. -/
def Token.tokenOver (type : Text) (ds : List Datum) : Datum :=
  .record [("type", .text type), ("alt", .text "words"), ("children", .list ds)]

/-- HTML as a block, in a heading, in a link, in an item, in a cell and in an image with words. -/
def tokensWithHtml (t : Text) : List Datum :=
  let html := [Token.rawToken "text" "a", Token.rawToken "inline_html" t]
  [Token.rawToken "block_html" t, Token.tokenOver "heading" html,
    Token.tokenOver "paragraph" [Token.tokenOver "link" html, Token.tokenOver "image" html],
    Token.tokenOver "list" [Token.tokenOver "list_item" [Token.tokenOver "block_text" html]],
    Token.tokenOver "table" [Token.tokenOver "table_head" [Token.tokenOver "table_cell" html]]]

theorem parts_eq_of_eraseAllHtml_tokensWithHtml :
    (Node.ofDocument (.list (tokensWithHtml "<b>"))).map (fun tree => Style.parts {} tree.elements)
      = (Node.ofDocument (.list (tokensWithHtml "<script>"))).map
          fun tree => Style.parts {} tree.elements :=
  parts_eq_of_eraseAllHtml {} _ _ rfl

end Wordsmith
