import Wordsmith.Proofs.Markup.Values
import Wordsmith.Proofs.Package.Hyperlinks
import Wordsmith.Proofs.Package.Pictures
import Wordsmith.Proofs.Package.Relocation
import Wordsmith.Proofs.Text.Numeral

/-!
# More elements at the end

Elements that follow others change nothing in what is written for those before them, neither in the
body nor in the relationships. What is written for the later elements is what would be written for
them alone, but for two things: their pictures are numbered on, and their links have the names that
the relationships of the whole document list for the same targets (`partText_append`).

## The architecture

* `Text.between?`, `Text.relocated` and `Text.pictureCount` speak of the texts of parts alone: a body is
  cut out between two tags, and relocated by giving two kinds of attributes other values.
* `LinkTable.translate` is the renaming between two tables of targets. It is what the proofs work with;
  that the relationships which are read from the parts agree with it is `renames_translate`.
* `relocates_first`, `relocates_second` feed the general lemma on relocation (`Relocates.elements`), once
  with nothing to change and once with the changes above.
* `body?_documentMarkup` reads the body back, so that the equation between markup becomes one between
  texts (`body?_append`).
-/

namespace Wordsmith

open Markup

/-! ## Texts of parts

All that the statement says of a body it says of its text, cut into lexemes: tags, and what stands
between them. `mapTags` rewrites the inside of every tag and leaves the rest as it is. -/

namespace Text

/-- What stands between one tag and the next tag of another kind, absent if one of them is missing.
Both tags are given without their brackets. -/
def between? (first last t : Text) : Option Text :=
  match t.lexemes.dropWhile (fun x => x ≠ .tag first) with
  | [] => none
  | _ :: rest =>
    if .tag last ∈ rest then
      some ((rest.takeWhile fun x => x ≠ .tag last).flatMap Lexeme.written)
    else none

/-- The body of a document part without the page geometry at its end. -/
def body? (t : Text) : Option Text := between? "w:body" "w:sectPr" t

/-- The number of pictures in a stretch of a body. -/
def pictureCount (t : Text) : Nat := t.lexemes.countP (Lexeme.opens "wp:docPr")

/-- A text that ends in a numeral, with that number increased. -/
def increase (n : Nat) (t : Text) : Text :=
  (t.takeWhile fun c => !c.isDigit) ++
    ofNat (Json.ofDigits (t.dropWhile fun c => !c.isDigit) + n)

/-- The new value of an attribute: pictures are numbered on, and hyperlinks get other names. -/
def placedValue (shift : Nat) (rename : Text → Text) (tag name value : Text) : Text :=
  if tag = "wp:docPr" ∧ (name = "id" ∨ name = "name") then increase shift value
  else if tag = "w:hyperlink" ∧ name = "r:id" then rename value
  else value

/-- A stretch of a body in another place. -/
def relocated (shift : Nat) (rename : Text → Text) (t : Text) : Text :=
  t.mapTags fun inside => mapValues (placedValue shift rename (Lexeme.tagName inside)) inside

end Text

/-! ## Tables of targets

The names of link targets are their places in a table (`LinkTable.name?`). A table for more links
begins with the table for fewer (`targets_ofLinks_append`), so names are kept in the longer document
(`name?_ofLinks_append`); and a name in one document is translated to the other by way of its target
(`map_translate`). -/

namespace LinkTable

/-- The target that the relationships list under a name. -/
def target? (t : LinkTable) (name : Text) : Option Text :=
  (t.entries.find? fun entry => entry.2 = name).map (·.1)

/-- The name that the relationships of another document list for the same target. -/
def translate (t t' : LinkTable) (name : Text) : Text :=
  ((t.target? name).bind fun target =>
    (t'.entries.find? fun entry => entry.1 = target).map (·.2)).getD name

/-- The first entry of a target lists it under its name. The induction is on the targets, whose
numbers start anywhere. -/
theorem find?_entries (t : LinkTable) (target : Text) :
    (t.entries.find? fun entry => entry.1 = target).map (·.2) = t.name? target := by
  -- the numbers start anywhere, as they do further down in the table
  have hfrom : ∀ (us : List Text) (k : Nat),
      (((us.zipIdx k).map fun p => (p.1, relationName (firstNumber + p.2))).find?
          fun entry => entry.1 = target).map (·.2)
        = (us.idxOf? target).map fun i => relationName (firstNumber + (i + k)) := by
    intro us
    induction us with
    | nil => exact fun _ => rfl
    | cons u us ih =>
      intro k
      rw [List.zipIdx_cons, List.map_cons, List.find?_cons, List.idxOf?_cons]
      by_cases hu : u = target
      · simp [hu]
      · have hnumber : ∀ i, i + (k + 1) = i + 1 + k := by omega
        simp only [hu, beq_false_of_ne hu, decide_false, ih, hnumber]
        rw [if_neg Bool.false_ne_true, Option.map_map]
        rfl
  exact hfrom t.targets 0

/-- A name leads back to the target that it was given for. -/
theorem target?_of_name? {t : LinkTable} {target name : Text} (h : t.name? target = some name) :
    t.target? name = some target := by
  obtain ⟨i, hi, rfl⟩ := Option.map_eq_some_iff.mp h
  obtain ⟨hlt, heq, -⟩ := List.idxOf?_eq_some_iff.mp hi
  -- the entry at the place of the target is there
  have hmem : (target, relationName (firstNumber + i)) ∈ t.entries := by
    refine List.mem_map.mpr ⟨(target, i), List.mk_mem_zipIdx_iff_getElem?.mpr ?_, rfl⟩
    rw [List.getElem?_eq_getElem hlt, heq]
  -- names are told apart as numbers are, so there is no other entry
  have honly : ∀ entry ∈ t.entries, entry.2 = relationName (firstNumber + i) →
      entry.1 = target := by
    intro entry hentry hname
    obtain ⟨⟨u, j⟩, hu, rfl⟩ := List.mem_map.mp hentry
    obtain rfl : j = i := Nat.add_left_cancel (relationName_inj.mp hname)
    rw [List.mk_mem_zipIdx_iff_getElem?, List.getElem?_eq_getElem hlt, heq] at hu
    exact (Option.some.inj hu).symm
  unfold target?
  cases hfind : t.entries.find? fun entry => entry.2 = relationName (firstNumber + i) with
  | none =>
    have hnone := List.find?_eq_none.mp hfind _ hmem
    exact absurd (decide_eq_true rfl) hnone
  | some entry =>
    have hname : entry.2 = relationName (firstNumber + i) := by
      simpa using List.find?_some hfind
    exact congrArg some (honly entry (List.mem_of_find?_eq_some hfind) hname)

/-- A name in one document is translated to the name that its target has in the other. -/
theorem translate_eq {t t' : LinkTable} {target name name' : Text}
    (h : t.name? target = some name) (h' : t'.name? target = some name') :
    t.translate t' name = name' := by
  unfold translate
  rw [target?_of_name? h, Option.bind_some, find?_entries, h']
  rfl

variable {mode : LinkMode}

/-- Links that follow others leave the numbers of those before as they are. -/
theorem targets_ofLinks_append (mode : LinkMode) (ls ms : List Text) :
    ∃ more, (ofLinks mode (ls ++ ms)).targets = (ofLinks mode ls).targets ++ more := by
  unfold ofLinks
  split
  · exact ⟨_, List.eraseDups_append⟩
  · exact ⟨[], rfl⟩

/-- A target keeps its name when others are added behind. -/
theorem name?_of_prefix {t t' : LinkTable} {more : List Text} (h : t'.targets = t.targets ++ more)
    {target name : Text} (hname : t.name? target = some name) : t'.name? target = some name := by
  obtain ⟨i, hi, rfl⟩ := Option.map_eq_some_iff.mp hname
  obtain ⟨hlt, heq, hfirst⟩ := List.idxOf?_eq_some_iff.mp hi
  -- its first place is that in the shorter table
  have hplace : (t.targets ++ more).idxOf? target = some i := by
    refine List.idxOf?_eq_some_iff.mpr
      ⟨Nat.lt_of_lt_of_le hlt (List.length_append ▸ Nat.le_add_right _ _), ?_, fun j hj => ?_⟩
    · rw [List.getElem_append_left hlt, heq]
    · rw [List.getElem_append_left (Nat.lt_trans hj hlt)]
      exact hfirst j hj
  unfold name?
  rw [h, hplace]
  rfl

/-- So the entries for fewer links are the first of those for more. -/
theorem entries_prefix (mode : LinkMode) (ls ms : List Text) :
    (ofLinks mode ls).entries <+: (ofLinks mode (ls ++ ms)).entries := by
  obtain ⟨more, hmore⟩ := targets_ofLinks_append mode ls ms
  unfold entries
  rw [hmore, List.zipIdx_append, List.map_append]
  exact List.prefix_append _ _

/-- Where links cannot be followed, no target has a name. -/
theorem name?_ofLinks_of_ne (hmode : mode ≠ .hyperlink) (ls : List Text) (target : Text) :
    (ofLinks mode ls).name? target = none := by
  unfold ofLinks
  rw [if_neg hmode]
  rfl

/-- Every target of a document has a name, where links can be followed. -/
theorem exists_name?_ofLinks (hmode : mode = .hyperlink) {ls : List Text} {target : Text}
    (h : target ∈ ls) : ∃ name, (ofLinks mode ls).name? target = some name := by
  have hmem : target ∈ (ofLinks mode ls).targets := by
    unfold ofLinks
    rw [if_pos hmode]
    exact List.mem_eraseDups.mpr h
  obtain ⟨i, -, hname⟩ := exists_name? hmem
  exact ⟨_, hname⟩

/-- A target that occurs in the first links has the same name with others behind. -/
theorem name?_ofLinks_append (ls ms : List Text) {target : Text} (h : target ∈ ls) :
    (ofLinks mode (ls ++ ms)).name? target = (ofLinks mode ls).name? target := by
  by_cases hmode : mode = .hyperlink
  · obtain ⟨more, hmore⟩ := targets_ofLinks_append mode ls ms
    obtain ⟨name, hname⟩ := exists_name?_ofLinks hmode h
    rw [hname, name?_of_prefix hmore hname]
  · rw [name?_ofLinks_of_ne hmode, name?_ofLinks_of_ne hmode]

/-- The names in one document are translated to those in another, if that has the links too. -/
theorem map_translate {ls ms : List Text} {target : Text} (h : target ∈ ls) (h' : target ∈ ms) :
    ((ofLinks mode ls).name? target).map ((ofLinks mode ls).translate (ofLinks mode ms))
      = (ofLinks mode ms).name? target := by
  by_cases hmode : mode = .hyperlink
  · obtain ⟨name, hname⟩ := exists_name?_ofLinks hmode h
    obtain ⟨name', hname'⟩ := exists_name?_ofLinks hmode h'
    rw [hname, hname', Option.map_some, translate_eq hname hname']
  · rw [name?_ofLinks_of_ne hmode, name?_ofLinks_of_ne hmode]
    rfl

/-- A table without targets translates no name. -/
theorem translate_of_ne (hmode : mode ≠ .hyperlink) (ls : List Text) (t' : LinkTable) (name : Text) :
    (ofLinks mode ls).translate t' name = name := by
  unfold translate target? entries ofLinks
  rw [if_neg hmode]
  rfl

end LinkTable

/-! ## Numbers

Pictures are numbered in their `id` and in their `name`, which both end in the number. -/

namespace Text

/-- What is increased is the number at the end, whatever stands before it. -/
theorem increase_append (lead : Text) (h : ∀ c ∈ lead, c.isDigit = false) (n k : Nat) :
    increase n (lead ++ ofNat k) = lead ++ ofNat (k + n) := by
  have hlead : ∀ c ∈ lead, (!c.isDigit) = true := fun c hc => by rw [h c hc]; rfl
  have hdigit : ∀ c ∈ ofNat k, ¬(!c.isDigit) = true := fun c hc => by
    rw [isDigit_of_mem_ofNat hc]
    exact Bool.false_ne_true
  have htake : (ofNat k).takeWhile (fun c => !c.isDigit) = [] :=
    List.takeWhile_eq_nil_iff.mpr fun _ => hdigit _ (List.get_mem _ _)
  have hdrop : (ofNat k).dropWhile (fun c => !c.isDigit) = ofNat k :=
    List.dropWhile_eq_self_iff.mpr fun _ => hdigit _ (List.getElem_mem _)
  unfold increase
  rw [List.takeWhile_append_of_pos hlead, List.dropWhile_append_of_pos hlead, htake, hdrop,
    ofDigits_ofNat, List.append_nil]

end Text

/-! ## Elements in the longer document

A list of elements is written with a policy, which holds the table of targets, and from a number of
pictures on. In the longer document both have changed for the later elements, and neither for the first
ones. -/

/-- The links of both lists, one after the other. -/
theorem Element.allLinks_append (as bs : List Element) :
    Element.allLinks (as ++ bs) = Element.allLinks as ++ Element.allLinks bs := by
  induction as with
  | nil => rfl
  | cons e es ih => rw [List.cons_append, Element.allLinks, ih, Element.allLinks, List.append_assoc]

/-- A target of the later elements is a target of them all. -/
theorem Element.mem_distinctTargets_append (as : List Element) {bs : List Element} {target : Text}
    (h : target ∈ Element.distinctTargets bs) : target ∈ Element.distinctTargets (as ++ bs) := by
  have hlinks : ∀ es, (runSequences es).flatMap Run.targets = allLinks es :=
    fun es => (allLinks_eq es).symm
  unfold distinctTargets at h ⊢
  rw [List.mem_eraseDups, hlinks] at h ⊢
  rw [allLinks_append]
  exact List.mem_append_right _ h

/-- The markup of both lists; the pictures of the second are counted from those of the first on. -/
theorem Element.allMarkup_append (p : BodyPolicy) (cell : Option Text) (next : Nat)
    (as bs : List Element) :
    Element.allMarkup p cell next (as ++ bs)
      = Element.allMarkup p cell next as
        ++ Element.allMarkup p cell (next + Element.imageCounts as) bs := by
  induction as generalizing next with
  | nil => rfl
  | cons e es ih =>
    rw [List.cons_append, Element.allMarkup, ih, Element.allMarkup, Element.imageCounts,
      List.append_assoc, Nat.add_assoc]

namespace Text

/-- Values under other tags are kept. -/
theorem placedValue_keeps {shift : Nat} {rename : Text → Text} {tag : String}
    (h : tag ≠ "wp:docPr" ∧ tag ≠ "w:hyperlink") (name value : Text) :
    placedValue shift rename tag name value = value := by
  simp [placedValue, h.1, h.2]

/-- So are all attributes of another tag. -/
theorem changeValues_keeps {shift : Nat} {rename : Text → Text} {tag : String}
    (h : tag ≠ "wp:docPr" ∧ tag ≠ "w:hyperlink") (attributes : List Attribute) :
    changeValues (placedValue shift rename) tag attributes = attributes := by
  unfold changeValues
  simp only [placedValue_keeps h]
  exact List.map_id' attributes

end Text

/-- Elements that stand first are written the same in a longer document. -/
theorem relocates_first (s : Style) (ls ms : List Text) :
    (s.bodyPolicy ls).Relocates (fun _ attributes => attributes) (s.bodyPolicy (ls ++ ms)) 0
      ls where
  contentWidth := rfl
  mode := rfl
  kept := fun _ _ _ => rfl
  color := rfl
  picture := fun _ _ => rfl
  link := fun _ h => congrArg _ (LinkTable.name?_ofLinks_append ls ms h).symm

/-- Elements that stand behind others are written with other numbers and names. -/
theorem relocates_second (s : Style) (shift : Nat) (ls ms : List Text) :
    (s.bodyPolicy ms).Relocates
      (changeValues (Text.placedValue shift
        ((s.linkPolicy ms).table.translate (s.linkPolicy (ls ++ ms)).table)))
      (s.bodyPolicy (ls ++ ms)) shift ms where
  contentWidth := rfl
  mode := rfl
  kept := by
    intro tag attributes h
    simp only [placedTags, List.mem_cons, not_or] at h
    exact Text.changeValues_keeps ⟨h.2.2.1, h.2.1⟩ attributes
  color := Text.changeValues_keeps (by decide) _
  -- the number stands alone in the `id` and after a word in the `name`
  picture := by
    intro number altText
    have hid : Text.increase shift (.ofInt number) = .ofInt (number + shift : Nat) :=
      Text.increase_append [] nofun shift number
    have hname := Text.increase_append "Picture " (by decide) shift number
    simp [changeValues, pictureAttributes, Text.placedValue, Attribute.int, Attribute.verbatim,
      Attribute.escaped, hid, hname]
  -- what the longer table has for the target is what the name is translated to
  link := by
    intro target h
    have htranslate : ((s.linkPolicy ms).table.name? target).map
        ((s.linkPolicy ms).table.translate (s.linkPolicy (ls ++ ms)).table)
          = (s.linkPolicy (ls ++ ms)).table.name? target :=
      LinkTable.map_translate h (List.mem_append_right ls h)
    have hname : ∀ name, changeValues (Text.placedValue shift
        ((s.linkPolicy ms).table.translate (s.linkPolicy (ls ++ ms)).table)) "w:hyperlink"
          (linkAttributes name)
        = linkAttributes
            ((s.linkPolicy ms).table.translate (s.linkPolicy (ls ++ ms)).table name) := by
      intro name
      simp [changeValues, linkAttributes, Text.placedValue, Attribute.verbatim]
    simp only [hname]
    rw [Style.bodyPolicy, Style.bodyPolicy, ← htranslate, Option.map_map]
    rfl

/-! ## The body of a document part

Before the body stand two tags (`documentHead`), and behind it the tag `w:sectPr`, which no element has.
So the body is found where it has been written. -/

section Body

variable {color : Text}

/-- Tags can be told from what is printed for elements, if the colour has no bracket in it. -/
theorem elementLexicon_showsTags (h : ∀ c ∈ color, c ≠ '<') : (elementLexicon color).ShowsTags where
  names := by
    show ∀ e ∈ elementTags, _
    decide
  verbatim := by
    rintro tag t ⟨-, rfl⟩
    exact h

/-- The colour is not changed by a relocation. -/
theorem elementLexicon_keepsVerbatim (color : Text) (shift : Nat) (rename : Text → Text) :
    (elementLexicon color).KeepsVerbatim (Text.placedValue shift rename) := by
  rintro tag t ⟨rfl, -⟩
  exact Text.placedValue_keeps (by decide)

namespace Text

/-- What is written between two tags is cut out again, if neither of them comes earlier. -/
theorem between?_eq {first last before inside : Text} (hbefore : Closed before)
    (hinside : Closed inside) (hfirst : ∀ c ∈ first, c ≠ '>') (hlast : ∀ c ∈ last, c ≠ '>')
    (hnone : .tag first ∉ before.lexemes) (hnext : .tag last ∉ inside.lexemes) (after : Text) :
    between? first last
        (before ++ ("<" ++ first ++ ">" ++ (inside ++ ("<" ++ last ++ ">" ++ after))))
      = some inside := by
  -- no lexeme before a tag is that tag, so that it is reached
  have hapart : ∀ {xs : List Lexeme} {y : Lexeme}, y ∉ xs → ∀ x ∈ xs, decide (x ≠ y) = true :=
    fun hy x hx => decide_eq_true fun heq => hy (heq ▸ hx)
  have hdrop : ∀ (y : Lexeme) (ys : List Lexeme),
      (y :: ys).dropWhile (fun x => decide (x ≠ y)) = y :: ys := fun y ys =>
    List.dropWhile_cons_of_neg (by simp)
  have htake : ∀ (y : Lexeme) (ys : List Lexeme),
      (y :: ys).takeWhile (fun x => decide (x ≠ y)) = [] := fun y ys =>
    List.takeWhile_cons_of_neg (by simp)
  unfold between?
  rw [hbefore, lexemes_tag hfirst, hinside, lexemes_tag hlast,
    List.dropWhile_append_of_pos (hapart hnone), hdrop]
  dsimp only
  rw [if_pos (List.mem_append_right _ List.mem_cons_self),
    List.takeWhile_append_of_pos (hapart hnext), htake, List.append_nil, flatMap_written_lexemes]

end Text

/-- The insides of the two tags before the body of a document part. -/
def documentHead : List Text :=
  [Text.ofString "?xml version=\"1.0\" encoding=\"UTF-8\" standalone=\"yes\"?",
    printTag "w:document"
      [.fixed "xmlns:w" Vocabulary.main, .fixed "xmlns:r" Vocabulary.references,
        .fixed "xmlns:wp" Vocabulary.drawings, .fixed "xmlns:a" Vocabulary.graphics,
        .fixed "xmlns:pic" Vocabulary.pictures]]

/-- Neither of the two tags ends before its end. -/
theorem ne_close_of_mem_documentHead : ∀ inside ∈ documentHead, ∀ c ∈ inside, c ≠ '>' := by
  have hroot : TagWithin (documentLexicon []) "w:document"
      [.fixed "xmlns:w" Vocabulary.main, .fixed "xmlns:r" Vocabulary.references,
        .fixed "xmlns:wp" Vocabulary.drawings, .fixed "xmlns:a" Vocabulary.graphics,
        .fixed "xmlns:pic" Vocabulary.pictures] := by
    cases within_documentMarkup ⟨⟨.coloredText, [], ⟨[]⟩⟩, 0⟩ {} {} [] with
    | element htag _ => exact htag
  have hverbatim : ∀ t, (documentLexicon []).verbatim "w:document" t → ∀ c ∈ t, c ≠ '>' := by
    rintro t ⟨htag, -⟩
    exact absurd htag (by decide)
  exact List.forall_mem_cons.mpr ⟨by decide, List.forall_mem_singleton.mpr fun _ =>
    hroot.of_mem_printTag holdsInTags_ne_close (documentLexicon_named []) hverbatim⟩

/-- A document part is its head, the body between two tags, and the rest. -/
theorem print_documentMarkup_eq (p : BodyPolicy) (size : PageSize) (margins : PageMargins)
    (es : List Element) :
    ∃ after, Vocabulary.print (documentMarkup p size margins es)
      = (documentHead.map .tag).flatMap Lexeme.written
        ++ ("<" ++ Text.ofString "w:body" ++ ">" ++
          (printAll (Element.allMarkup p none 1 es) ++
            ("<" ++ Text.ofString "w:sectPr" ++ ">" ++ after))) := by
  have hdeclaration : Vocabulary.declaration
      = Lexeme.written
          (.tag "?xml version=\"1.0\" encoding=\"UTF-8\" standalone=\"yes\"?") := rfl
  have htag : ∀ tag, printTag tag [] = Text.ofString tag := fun _ => List.append_nil _
  unfold Vocabulary.print documentMarkup sectionMarkup documentHead
  rw [hdeclaration, List.map_cons, List.map_singleton, List.flatMap_cons, List.flatMap_singleton]
  simp only [print, printAll, printAll_append, htag, List.append_assoc, Lexeme.written]
  exact ⟨_, rfl⟩

/-- The body of a document part is what is printed for its elements. -/
theorem body?_documentMarkup {p : BodyPolicy} (hcolor : ∀ c ∈ p.links.color, c ≠ '<')
    (size : PageSize) (margins : PageMargins) (es : List Element) :
    (Vocabulary.print (documentMarkup p size margins es)).body?
      = some (printAll (Element.allMarkup p none 1 es)) := by
  have hwithin := within_topElements p es
  have hshows := elementLexicon_showsTags hcolor
  have hclosed : Text.Closed (printAll (Element.allMarkup p none 1 es)) :=
    closed_printAll fun m hm => (hwithin m hm).closed_print hshows
  -- the tag of the page geometry belongs to the frame, so no element has it
  have hgeometry : .tag "w:sectPr" ∉ (printAll (Element.allMarkup p none 1 es)).lexemes := by
    have hfind : find "w:sectPr" (Element.allMarkup p none 1 es) = [] :=
      find_eq_nil fun m hm => (hwithin m hm).find_eq_nil (by show ∀ e ∈ elementTags, _; decide)
    have hcount : (printAll (Element.allMarkup p none 1 es)).lexemes.countP
        (Lexeme.opens "w:sectPr") = 0 := by
      rw [countP_opens_printAll (fun m hm => (hwithin m hm).closed_print hshows)
        (fun m hm => (hwithin m hm).countP_opens hshows (by decide)), hfind]
      rfl
    intro hmem
    exact List.countP_eq_zero.mp hcount _ hmem (by decide)
  obtain ⟨after, hprint⟩ := print_documentMarkup_eq p size margins es
  have hhead := Text.lexemes_tags ne_close_of_mem_documentHead
  have hself : Text.lexemes ((documentHead.map .tag).flatMap Lexeme.written)
      = documentHead.map .tag := by
    have hnil := hhead []
    rw [List.append_nil] at hnil
    exact hnil.trans (List.append_nil _)
  rw [hprint]
  refine Text.between?_eq (fun rest => ?_) hclosed (by decide) (by decide) ?_ hgeometry after
  · rw [hhead, hself]
  · rw [hself]
    decide

end Body

/-! ## Both parts

The body of the longer document is put together from the two bodies, and the relationships from a head
that is the same for all documents and one entry for each target. -/

/-- The picture tags in the body of a document part. -/
theorem pictureCount_body {p : BodyPolicy} (hcolor : ∀ c ∈ p.links.color, c ≠ '<')
    (es : List Element) :
    (printAll (Element.allMarkup p none 1 es)).pictureCount = Element.imageCounts es := by
  have hwithin := within_topElements p es
  have hshows := elementLexicon_showsTags hcolor
  unfold Text.pictureCount
  rw [countP_opens_printAll (fun m hm => (hwithin m hm).closed_print hshows)
    (fun m hm => (hwithin m hm).countP_opens hshows (by decide)), length_find_pictures]

/-- What stands before the relationships of links, the same for all documents. -/
def relationshipsHead : Text :=
  Vocabulary.declaration ++ "<" ++
    printTag "Relationships" [.fixed "xmlns" Vocabulary.relationships] ++ ">" ++
    printAll
      [Vocabulary.relationship (LinkTable.relationName 1) "styles" "styles.xml",
        Vocabulary.relationship (LinkTable.relationName 2) "settings" "settings.xml"]

/-- The relationships are their head, an entry for each target, and the closing tag. -/
theorem print_relationships_eq (t : LinkTable) :
    Vocabulary.print t.relationships
      = relationshipsHead ++ printAll (t.entries.map fun (target, name) =>
          Vocabulary.relationship name "hyperlink" target.strip [.fixed "TargetMode" "External"])
        ++ "</Relationships>" := by
  have hend : Text.ofString "</Relationships>"
      = Text.ofString "</" ++ Text.ofString "Relationships" ++ Text.ofString ">" := rfl
  unfold Vocabulary.print LinkTable.relationships Vocabulary.relationshipList relationshipsHead
  rw [print, printAll_append, hend]
  simp only [List.append_assoc]

/-- The relationships before the closing tag stay as they are when elements are added. -/
theorem relationships_append (s : Style) (as bs : List Element) :
    ∃ listed listed' : Text,
      s.partText as .documentRelationships = listed ++ "</Relationships>" ∧
      s.partText (as ++ bs) .documentRelationships = listed' ++ "</Relationships>" ∧
      listed <+: listed' := by
  refine ⟨_, _, print_relationships_eq _, print_relationships_eq _, ?_⟩
  obtain ⟨rest, hentries⟩ := LinkTable.entries_prefix s.linkMode (Element.allLinks as)
    (Element.allLinks bs)
  rw [← Element.allLinks_append] at hentries
  unfold Style.linkPolicy
  rw [← hentries, List.map_append, printAll_append, ← List.append_assoc]
  exact List.prefix_append _ _

/-- The body of the longer document is the first body, and behind it the second one, relocated. -/
theorem body?_append (s : Style) (as bs : List Element) (hcolor : ∀ c ∈ s.linkColor, c ≠ '<') :
    ∃ first second whole : Text,
      (s.partText as .document).body? = some first ∧
      (s.partText bs .document).body? = some second ∧
      (s.partText (as ++ bs) .document).body? = some whole ∧
      first <+: whole ∧
      whole = first ++ second.relocated first.pictureCount
        ((s.linkPolicy (Element.allLinks bs)).table.translate
          (s.linkPolicy (Element.allLinks (as ++ bs))).table) := by
  let p := s.bodyPolicy (Element.allLinks as)
  let p' := s.bodyPolicy (Element.allLinks (as ++ bs))
  let q := s.bodyPolicy (Element.allLinks bs)
  let rename := (s.linkPolicy (Element.allLinks bs)).table.translate
    (s.linkPolicy (Element.allLinks (as ++ bs))).table
  have hlinks : Element.allLinks (as ++ bs) = Element.allLinks as ++ Element.allLinks bs :=
    Element.allLinks_append as bs
  -- the first elements are written with the longer table as with their own
  have hfirst : Element.allMarkup p none 1 as = Element.allMarkup p' none 1 as := by
    have helements := (relocates_first s (Element.allLinks as) (Element.allLinks bs)).elements none
      1 as (List.Subset.refl _)
    rw [← hlinks, map_mapAttributes_id] at helements
    exact helements
  -- the later ones too, once their attributes have been changed, in markup and so in print
  have hsecond : (printAll (Element.allMarkup q none 1 bs)).relocated (Element.imageCounts as)
      rename = printAll (Element.allMarkup p' none (1 + Element.imageCounts as) bs) := by
    have hwithin := within_topElements q bs
    have hshows : (elementLexicon q.links.color).ShowsTags := elementLexicon_showsTags hcolor
    have helements := (relocates_second s (Element.imageCounts as) (Element.allLinks as)
      (Element.allLinks bs)).elements none 1 bs (List.Subset.refl _)
    rw [← hlinks] at helements
    rw [← helements]
    exact mapTags_printAll (fun m hm => (hwithin m hm).closed_print hshows) fun m hm =>
      (hwithin m hm).mapTags_print hshows
        (rewrites_changeValues hshows (elementLexicon_keepsVerbatim _ _ _))
  have hwhole : printAll (Element.allMarkup p' none 1 (as ++ bs))
      = printAll (Element.allMarkup p none 1 as) ++
        (printAll (Element.allMarkup q none 1 bs)).relocated
          (printAll (Element.allMarkup p none 1 as)).pictureCount rename := by
    rw [pictureCount_body (p := p) hcolor as, hsecond, Element.allMarkup_append, printAll_append,
      hfirst]
  exact ⟨_, _, _, body?_documentMarkup hcolor _ _ as, body?_documentMarkup hcolor _ _ bs,
    body?_documentMarkup hcolor _ _ (as ++ bs), ⟨_, hwhole.symm⟩, hwhole⟩

/-- `rename` translates the names on the hyperlinks of `bs`, behind `as`. With `root` and `rels` read
from the document part and the relationships of `bs` alone, and `rels'` from the relationships of both
together: what is the name of a target in `rels`, is renamed to the name of that target in `rels'`. -/
def Xml.Renames (as bs : List Element) (root rels rels' : Xml) (rename : Text → Text) : Prop :=
  List.Forall₂
    (fun h target => ∃ name, h.attribute? "r:id" = some name ∧
      Xml.Resolves bs (rels.tagged "Relationship") (some name) target ∧
      Xml.Resolves (as ++ bs) (rels'.tagged "Relationship") (some (rename name)) target)
    (root.tagged "w:hyperlink") (Element.groupTargets bs)

/-- Both documents list the target of a hyperlink, and the translation between their tables is that
between the relationships which are read from their parts. -/
theorem renames_translate {s : Style} (hmode : s.linkMode = .hyperlink) (as bs : List Element)
    {root rels rels' : Xml}
    (hdocument : ∀ tag, root.tagged tag = find tag
      [documentMarkup (s.bodyPolicy (Element.allLinks bs)) s.pageSize s.pageMargins bs])
    (hrels : ∀ tag, rels.tagged tag = find tag
      [(s.linkPolicy (Element.allLinks bs)).table.relationships])
    (hrels' : ∀ tag, rels'.tagged tag = find tag
      [(s.linkPolicy (Element.allLinks (as ++ bs))).table.relationships]) :
    Xml.Renames as bs root rels rels'
      ((s.linkPolicy (Element.allLinks bs)).table.translate
        (s.linkPolicy (Element.allLinks (as ++ bs))).table) := by
  have hresolve : ∀ target ∈ Element.groupTargets bs, ∃ name,
      (s.linkPolicy (Element.allLinks bs)).table.name? target = some name ∧
      Xml.Resolves bs (rels.tagged "Relationship") (some name) target ∧
      Xml.Resolves (as ++ bs) (rels'.tagged "Relationship")
        (some ((s.linkPolicy (Element.allLinks bs)).table.translate
          (s.linkPolicy (Element.allLinks (as ++ bs))).table name)) target := by
    intro target htarget
    have hmem := Element.mem_distinctTargets htarget
    have halone := Style.resolves_name? hmode hrels hmem
    have hwhole := Style.resolves_name? hmode hrels' (Element.mem_distinctTargets_append as hmem)
    -- each table has a name for the target, and the one is translated to the other
    obtain ⟨i, -, hname, -⟩ := id halone
    obtain ⟨j, -, hname', -⟩ := id hwhole
    refine ⟨_, hname, hname ▸ halone, ?_⟩
    rw [LinkTable.translate_eq hname hname', ← hname']
    exact hwhole
  have hpairs : List.Forall₂
      (fun name? target => ∃ name, name? = some name ∧
        Xml.Resolves bs (rels.tagged "Relationship") (some name) target ∧
        Xml.Resolves (as ++ bs) (rels'.tagged "Relationship")
          (some ((s.linkPolicy (Element.allLinks bs)).table.translate
            (s.linkPolicy (Element.allLinks (as ++ bs))).table name)) target)
      ((root.tagged "w:hyperlink").map (Xml.attribute? "r:id")) (Element.groupTargets bs) := by
    rw [Style.map_id_hyperlinks hmode hdocument]
    exact List.forall₂_map_left_iff.mpr (List.forall₂_same.mpr hresolve)
  exact List.forall₂_map_left_iff.mp hpairs

/-- **More elements at the end.** Elements behind others leave what is written before them as it is, in
the body and in the relationships. They are written themselves as they would be alone, but that their
pictures are numbered on and their hyperlinks have the names that the relationships of the whole
document, as they are read from its part, give to the same targets. -/
theorem partText_append (s : Style) (as bs : List Element)
    (hcolor : ∀ c ∈ s.linkColor, c ≠ '<' ∧ c ≠ '&' ∧ c ≠ '"') :
    (∃ (first second whole : Text) (rename : Text → Text) (root rels rels' : Xml),
      (s.partText as .document).body? = some first ∧
      (s.partText bs .document).body? = some second ∧
      (s.partText (as ++ bs) .document).body? = some whole ∧
      first <+: whole ∧
      whole = first ++ second.relocated first.pictureCount rename ∧
      Xml.read? (s.partText bs .document) = some root ∧
      Xml.read? (s.partText bs .documentRelationships) = some rels ∧
      Xml.read? (s.partText (as ++ bs) .documentRelationships) = some rels' ∧
      (s.linkMode = .hyperlink → Xml.Renames as bs root rels rels' rename) ∧
      (s.linkMode ≠ .hyperlink → ∀ name, rename name = name)) ∧
    ∃ listed listed' : Text,
      s.partText as .documentRelationships = listed ++ "</Relationships>" ∧
      s.partText (as ++ bs) .documentRelationships = listed' ++ "</Relationships>" ∧
      listed <+: listed' := by
  refine ⟨?_, relationships_append s as bs⟩
  -- the three bodies, and then the parts that tell what the names in them lead to
  obtain ⟨first, second, whole, hfirst, hsecond, hwhole, hbegins, hbodies⟩ :=
    body?_append s as bs fun c hc => (hcolor c hc).1
  obtain ⟨root, hroot, hdocument⟩ := s.exists_read?_document bs hcolor
  obtain ⟨rels, hrels, hrelationships⟩ := s.exists_read?_relationships bs
  obtain ⟨rels', hrels', hrelationships'⟩ := s.exists_read?_relationships (as ++ bs)
  exact ⟨first, second, whole, _, root, rels, rels', hfirst, hsecond, hwhole, hbegins, hbodies, hroot,
    hrels, hrels', fun hmode => renames_translate hmode as bs hdocument hrelationships hrelationships',
    fun hmode name => LinkTable.translate_of_ne hmode _ _ name⟩

/-- A target that occurs has the number of its first place. -/
theorem Xml.Resolves.name_eq {es : List Element} {relationships : List Xml} {name target : Text}
    {i : Nat} (h : Xml.Resolves es relationships (some name) target)
    (hplace : ∀ j, (Element.distinctTargets es)[j]? = some target → j = i) :
    name = LinkTable.relationName (LinkTable.firstNumber + i) ∧
      Xml.LeadsTo relationships name target := by
  obtain ⟨j, hj, hname, hleads⟩ := h
  obtain rfl := hplace j hj
  exact ⟨Option.some.inj hname, Option.some.inj hname ▸ hleads⟩

/-- A picture and a link. -/
def picturedElements : List Element :=
  [.image "one" "", .paragraph [{ text := "x", link := some "u" }]]

/-- A picture in a cell of a table, and the link to the same target after another. -/
def picturedCells : List Element :=
  [.table [⟨[⟨[.image "two" "", .quote [{ text := "y", link := some "v" },
    { text := "z", link := some "u" }]]⟩], false⟩]]

/-- Alone, the cells name their targets `v` and `u` in this order. Behind the other elements, where `u`
has been named already, their names are exchanged, and the relationships of the whole document lead
from the new names to the same targets. -/
theorem partText_append_pictured :
    ∃ (first second whole : Text) (rename : Text → Text) (rels rels' : Xml),
      (({ linkMode := .hyperlink } : Style).partText picturedElements .document).body? = some first ∧
      (({ linkMode := .hyperlink } : Style).partText picturedCells .document).body? = some second ∧
      (({ linkMode := .hyperlink } : Style).partText (picturedElements ++ picturedCells)
        .document).body? = some whole ∧
      first <+: whole ∧ whole = first ++ second.relocated first.pictureCount rename ∧
      rename "rId3" = Text.ofString "rId4" ∧ rename "rId4" = Text.ofString "rId3" ∧
      Xml.read? (({ linkMode := .hyperlink } : Style).partText picturedCells
        .documentRelationships) = some rels ∧
      Xml.LeadsTo (rels.tagged "Relationship") "rId3" "v" ∧
      Xml.LeadsTo (rels.tagged "Relationship") "rId4" "u" ∧
      Xml.read? (({ linkMode := .hyperlink } : Style).partText (picturedElements ++ picturedCells)
        .documentRelationships) = some rels' ∧
      Xml.LeadsTo (rels'.tagged "Relationship") "rId4" "v" ∧
      Xml.LeadsTo (rels'.tagged "Relationship") "rId3" "u" := by
  obtain ⟨⟨first, second, whole, rename, root, rels, rels', hfirst, hsecond, hwhole, hbegins, hbodies,
    -, hrels, hrels', hnames, -⟩, -⟩ := partText_append { linkMode := .hyperlink } picturedElements
      picturedCells (by decide)
  have htargets : Element.groupTargets picturedCells = [Text.ofString "v", Text.ofString "u"] := by
    decide
  have halone : Element.distinctTargets picturedCells = [Text.ofString "v", Text.ofString "u"] := by
    decide
  have hboth : Element.distinctTargets (picturedElements ++ picturedCells)
      = [Text.ofString "u", Text.ofString "v"] := by
    decide
  have hrenames := hnames rfl
  unfold Xml.Renames at hrenames
  rw [htargets] at hrenames
  -- two hyperlinks, each with its name alone and its name behind the others
  obtain ⟨_, _, ⟨v, -, hv, hv'⟩, hrest, -⟩ := List.forall₂_cons_right_iff.mp hrenames
  obtain ⟨_, _, ⟨u, -, hu, hu'⟩, -, -⟩ := List.forall₂_cons_right_iff.mp hrest
  -- of two different targets each has one place
  have hfirstPlace : ∀ {t t' : Text}, t ≠ t' → ∀ j, [t, t'][j]? = some t → j = 0 := by
    rintro t t' hne (_ | _ | j) hj
    · rfl
    · exact absurd (Option.some.inj hj).symm hne
    · cases hj
  have hsecondPlace : ∀ {t t' : Text}, t ≠ t' → ∀ j, [t, t'][j]? = some t' → j = 1 := by
    rintro t t' hne (_ | _ | j) hj
    · exact absurd (Option.some.inj hj) hne
    · rfl
    · cases hj
  obtain ⟨rfl, hvleads⟩ := hv.name_eq (halone ▸ hfirstPlace (by decide))
  obtain ⟨rfl, huleads⟩ := hu.name_eq (halone ▸ hsecondPlace (by decide))
  obtain ⟨hvname, hvleads'⟩ := hv'.name_eq (hboth ▸ hsecondPlace (by decide))
  obtain ⟨huname, huleads'⟩ := hu'.name_eq (hboth ▸ hfirstPlace (by decide))
  rw [hvname] at hvleads'
  rw [huname] at huleads'
  exact ⟨first, second, whole, rename, rels, rels', hfirst, hsecond, hwhole, hbegins, hbodies, hvname,
    huname, hrels, hvleads, huleads, hrels', hvleads', huleads'⟩

end Wordsmith
