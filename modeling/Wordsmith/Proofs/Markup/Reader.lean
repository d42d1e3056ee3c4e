import Wordsmith.Proofs.Markup.Grammar
import Wordsmith.Proofs.Text.Literal

/-!
# Reading markup texts

A reader that goes through a text once, one code point after the other, and builds the tree that the
text stands for. It knows where it stands in the grammar (`Place`), the elements whose end tags are
still to come, and the content of the innermost of them.

* `Reader.run_content` — over a text that the grammar derives as content, the reader appends the
  tree of that content to what it has read, and is back between tags.
* `read?_of_isDocument` — so a document reads as its tree, and a text is a document in one way only
  (`IsDocument.unique`).
-/

namespace Wordsmith.Xml

/-! ## The reader

Each place of the grammar is a state, and `Reader.step` is the transition for one code point. What the
grammar does not allow there has none. -/

/-- Reads one code point of character data. The state is what has been read of the name of a
reference; the result is the new state and the characters that are complete. -/
def readCharacter : Option Text → CodePoint → Option (Option Text × Text)
  | none, c =>
    if c = '&' then some (some [], [])
    else if c = '<' then none
    else some (none, [c])
  | some name, c =>
    if c = ';' then (entities.lookup name).map fun d => (none, [d])
    else some (some (name ++ [c]), [])

/-- An element whose end tag is still to come, and the content before it. -/
structure Enclosing where
  tag : Text
  attributes : List (Text × Text)
  before : List Xml

/-- Where a reader stands. -/
inductive Place where
  /-- Between tags; a reference may have been read in part. -/
  | content (reference : Option Text)
  /-- After the bracket that starts a tag. -/
  | bracket
  /-- In the name of a start tag. -/
  | opening (tag : Text)
  /-- In the name of an end tag. -/
  | closing (tag : Text)
  /-- In the name of an attribute. -/
  | name (tag : Text) (attributes : List (Text × Text)) (name : Text)
  /-- Before the value of an attribute. -/
  | equals (tag : Text) (attributes : List (Text × Text)) (name : Text)
  /-- In the value of an attribute. -/
  | value (tag : Text) (attributes : List (Text × Text)) (name value : Text)
      (reference : Option Text)
  /-- After the attributes read so far. -/
  | attributes (tag : Text) (attributes : List (Text × Text))
  /-- After the slash of an empty element. -/
  | slash (tag : Text) (attributes : List (Text × Text))

/-- A reader: where it stands, the enclosing elements from the innermost on, and the content of the
innermost. -/
structure Reader where
  place : Place
  outer : List Enclosing
  content : List Xml

namespace Reader

/-- Reads what follows the name of a tag or an attribute. -/
def readRest (r : Reader) (tag : Text) (attributes : List (Text × Text)) (c : CodePoint) :
    Option Reader :=
  if c = ' ' then some { r with place := .name tag attributes [] }
  else if c = '/' then some { r with place := .slash tag attributes }
  else if c = '>' then some ⟨.content none, ⟨tag, attributes, r.content⟩ :: r.outer, []⟩
  else none

/-- Ends the innermost element, which has to have this tag. -/
def close (r : Reader) (tag : Text) : Option Reader :=
  match r.outer with
  | [] => none
  | e :: outer =>
    if e.tag = tag then
      some ⟨.content none, outer, e.before ++ [.element e.tag e.attributes r.content]⟩
    else none

/-- Reads one code point. Outside the root there is no character data, and after it no element. -/
def step (r : Reader) (c : CodePoint) : Option Reader :=
  match r.place with
  | .content reference =>
    if reference.isNone && c = '<' then some { r with place := .bracket }
    else if r.outer.isEmpty || (reference.isNone && c = '>') then none
    else
      (readCharacter reference c).map fun (reference, shown) =>
        { r with place := .content reference, content := r.content ++ shown.map .character }
  | .bracket =>
    if c = '/' then some { r with place := .closing [] }
    else if c.isNameStart && (!r.outer.isEmpty || r.content.isEmpty) then
      some { r with place := .opening [c] }
    else none
  | .opening tag =>
    if c.isNameChar then some { r with place := .opening (tag ++ [c]) } else r.readRest tag [] c
  | .closing tag =>
    if c = '>' then r.close tag else some { r with place := .closing (tag ++ [c]) }
  | .name tag attributes name =>
    if c = '=' then
      if isName name && attributes.all fun a => a.1 ≠ name then
        some { r with place := .equals tag attributes name }
      else none
    else some { r with place := .name tag attributes (name ++ [c]) }
  | .equals tag attributes name =>
    if c = '"' then some { r with place := .value tag attributes name [] none } else none
  | .value tag attributes name value reference =>
    if reference.isNone && c = '"' then
      some { r with place := .attributes tag (attributes ++ [(name, value)]) }
    else
      (readCharacter reference c).map fun (reference, shown) =>
        { r with place := .value tag attributes name (value ++ shown) reference }
  | .attributes tag attributes => r.readRest tag attributes c
  | .slash tag attributes =>
    if c = '>' then some ⟨.content none, r.outer, r.content ++ [.element tag attributes []]⟩
    else none

/-- Reads a text from where the reader stands. -/
def run (r : Reader) (t : Text) : Option Reader := t.foldlM step r

/-- The reader before a root element. -/
def start : Reader := ⟨.content none, [], []⟩

/-- The root, if there is one and it has been read to its end. -/
def root? (r : Reader) : Option Xml :=
  match r with
  | ⟨.content none, [], [root]⟩ => some root
  | _ => none

end Reader

/-- The tree of a document, absent if the text is none. -/
def read? (t : Text) : Option Xml := do
  let body ← Text.dropLead? Vocabulary.declaration t
  let r ← Reader.start.run body
  r.root?

namespace Reader

@[simp] theorem run_nil (r : Reader) : r.run [] = some r := rfl

@[simp] theorem run_cons (r : Reader) (c : CodePoint) (t : Text) :
    r.run (c :: t) = (r.step c).bind (·.run t) := rfl

/-- Reading goes on where it stopped. -/
theorem run_append (r : Reader) (s t : Text) : r.run (s ++ t) = (r.run s).bind (·.run t) :=
  List.foldlM_append

/-- Reading a text in two pieces, the first of which has been read. -/
theorem run_append_of_eq {r r' : Reader} {s : Text} (h : r.run s = some r') (t : Text) :
    r.run (s ++ t) = r'.run t := by
  rw [run_append, h]
  rfl

/-- Characters that a place keeps are gathered there one after another. -/
theorem run_gather (put : Text → Reader) {p : CodePoint → Prop}
    (hput : ∀ read c, p c → (put read).step c = some (put (read ++ [c]))) {t : Text}
    (h : ∀ c ∈ t, p c) (read : Text) : run (put read) t = some (put (read ++ t)) := by
  induction t generalizing read with
  | nil => simp
  | cons c t ih =>
    rw [run_cons, hput read c (h c List.mem_cons_self), Option.bind_some,
      ih fun d hd => h d (List.mem_cons_of_mem c hd), List.append_assoc, List.singleton_append]

/-! ## Character data

Content and attribute values are read alike, and differ only in where the characters go. `put`
stands for the place: `put reference shown` is the reader that has read `shown` and a part of a
reference. -/

/-- `put` is a place for character data that ends at `stop`. -/
def Collects (stop : CodePoint) (put : Option Text → Text → Reader) : Prop :=
  ∀ reference shown (c : CodePoint), (reference = none → c ≠ '<' ∧ c ≠ stop) →
    (put reference shown).step c
      = (readCharacter reference c).map fun p => put p.1 (shown ++ p.2)

/-- The name of each reference is found, and has no semicolon in it. -/
theorem lookup_of_mem_entities {name : Text} {c : CodePoint} (h : (name, c) ∈ entities) :
    entities.lookup name = some c ∧ ∀ d ∈ name, d ≠ ';' := by
  have hall : ∀ e ∈ entities, entities.lookup e.1 = some e.2 ∧ ∀ d ∈ e.1, d ≠ ';' := by decide
  exact hall (name, c) h

variable {stop : CodePoint} {put : Option Text → Text → Reader}

/-- The name of a reference is gathered. -/
theorem Collects.run_name (hput : Collects stop put) {name : Text} (h : ∀ d ∈ name, d ≠ ';')
    (shown : Text) :
    run (put (some []) shown) name = some (put (some name) shown) := by
  refine run_gather (fun read => put (some read) shown) ?_ h []
  intro read d hd
  rw [hput (some read) shown d nofun]
  simp [readCharacter, hd]

/-- A character is added to what has been read. -/
theorem Collects.run_character (hput : Collects stop put) (hstop : stop ≠ '&') {written : Text}
    {c : CodePoint} (h : IsCharacter stop written c) (shown : Text) :
    run (put none shown) written = some (put none (shown ++ [c])) := by
  cases h with
  | plain c hlt hamp hne =>
    rw [run_cons, hput none shown c fun _ => ⟨hlt, hne⟩]
    simp [readCharacter, hlt, hamp]
  | reference name c h =>
    obtain ⟨hlookup, hsemicolon⟩ := lookup_of_mem_entities h
    -- a reference: the ampersand, the name, and the semicolon that looks it up
    have hopen : run (put none shown) "&" = some (put (some []) shown) := by
      show (put none shown).run ['&'] = _
      rw [run_cons, hput none shown '&' fun _ => ⟨by decide, hstop.symm⟩]
      simp [readCharacter]
    have hclose : run (put (some name) shown) ";" = some (put none (shown ++ [c])) := by
      show (put (some name) shown).run [';'] = _
      rw [run_cons, hput (some name) shown ';' nofun]
      simp [readCharacter, hlookup]
    rw [List.append_assoc, run_append_of_eq hopen,
      run_append_of_eq (hput.run_name hsemicolon shown)]
    exact hclose

/-- A value is read character by character. -/
theorem Collects.run_value (hput : Collects stop put) (hstop : stop ≠ '&') {written value : Text}
    (h : IsValue stop written value) (shown : Text) :
    run (put none shown) written = some (put none (shown ++ value)) := by
  induction h generalizing shown with
  | nil => simp
  | cons hc _ ih =>
    rw [run_append_of_eq (hput.run_character hstop hc shown), ih, List.append_assoc,
      List.singleton_append]

variable {tag name written : Text} {attrs : List (Text × Text)} {outer : List Enclosing}
  {before : List Xml}

/-- The value of an attribute is such a place; it ends at the quotation mark. -/
theorem collects_value :
    Collects '"' fun reference shown => ⟨.value tag attrs name shown reference, outer, before⟩ := by
  intro reference shown c h
  have hquote : (reference.isNone && decide (c = '"')) = false := by
    cases reference with
    | none => simp [(h rfl).2]
    | some read => rfl
  simp only [step, hquote]
  rfl

/-- The content of an element is another; a closing bracket may not stand in it. -/
theorem collects_content (e : Enclosing) (before : List Xml) :
    Collects '>' fun reference shown =>
      ⟨.content reference, e :: outer, before ++ shown.map .character⟩ := by
  intro reference shown c h
  have hbracket : (reference.isNone && decide (c = '<')) = false := by
    cases reference with
    | none => simp [(h rfl).1]
    | some read => rfl
  have hend : (reference.isNone && decide (c = '>')) = false := by
    cases reference with
    | none => simp [(h rfl).2]
    | some read => rfl
  simp [step, hbracket, hend]

/-! ## Names and tags

A tag is read in pieces: its name, its attributes, and how it ends. The lemmas compose these by
`run_append_of_eq`. -/

/-- A character that ends a name is none of it. -/
theorem ne_of_isNameChar {c d : CodePoint} (h : c.isNameChar = true)
    (hd : d.isNameChar = false) : c ≠ d := by
  rintro rfl
  rw [h] at hd
  exact absurd hd (by decide)

/-- All characters of a name are those of names. -/
theorem isNameChar_of_mem {name : Text} (h : isName name = true) :
    ∀ c ∈ name, c.isNameChar = true := by
  cases name with
  | nil => exact absurd h (by decide)
  | cons d name =>
    simp only [isName, Bool.and_eq_true, List.all_eq_true] at h
    intro c hc
    rcases List.mem_cons.mp hc with rfl | hc
    · simp [CodePoint.isNameChar, h.1]
    · exact h.2 c hc

/-- The name of an attribute is read up to the sign before its value. -/
theorem run_name (h : isName name = true) :
    run ⟨.name tag attrs [], outer, before⟩ name = some ⟨.name tag attrs name, outer, before⟩ := by
  have hne : ∀ c ∈ name, c ≠ '=' := fun c hc =>
    ne_of_isNameChar (isNameChar_of_mem h c hc) (by decide)
  refine run_gather (fun read => ⟨.name tag attrs read, outer, before⟩) ?_ hne []
  intro read c hc
  simp [step, hc]

/-- The name of a start tag is read while the characters are those of names. -/
theorem run_opening (h : ∀ c ∈ name, c.isNameChar = true) (read : Text) :
    run ⟨.opening read, outer, before⟩ name = some ⟨.opening (read ++ name), outer, before⟩ := by
  refine run_gather (fun read => ⟨.opening read, outer, before⟩) ?_ h read
  intro read c hc
  simp [step, hc]

/-- The name of an end tag is read up to the bracket. -/
theorem run_closing (h : isName name = true) :
    run ⟨.closing [], outer, before⟩ name = some ⟨.closing name, outer, before⟩ := by
  have hne : ∀ c ∈ name, c ≠ '>' := fun c hc =>
    ne_of_isNameChar (isNameChar_of_mem h c hc) (by decide)
  refine run_gather (fun read => ⟨.closing read, outer, before⟩) ?_ hne []
  intro read c hc
  simp [step, hc]

/-- Attributes are added to those read before. -/
theorem run_attributes (h : AreAttributes written attrs) (read : List (Text × Text))
    (hnew : ∀ a ∈ attrs, ∀ b ∈ read, b.1 ≠ a.1) :
    run ⟨.attributes tag read, outer, before⟩ written
      = some ⟨.attributes tag (read ++ attrs), outer, before⟩ := by
  induction h generalizing read with
  | nil => simp
  | @cons name written value rest attrs hname hvalue hdistinct _ ih =>
    -- the reader compares a name with those before it; that none of those after it repeats it is
    -- `hdistinct`, which the induction needs
    have hfresh : (read.all fun a => a.1 ≠ name) = true := by
      simpa using hnew (name, value) List.mem_cons_self
    have hspace : run ⟨.attributes tag read, outer, before⟩ " "
        = some ⟨.name tag read [], outer, before⟩ := rfl
    have hequals : run ⟨.name tag read name, outer, before⟩ "=\""
        = some ⟨.value tag read name [] none, outer, before⟩ := by
      have hstep : step ⟨.name tag read name, outer, before⟩ '='
          = some ⟨.equals tag read name, outer, before⟩ := by
        show (if (isName name && read.all fun a => a.1 ≠ name) = true then _ else _) = _
        rw [hname, hfresh]
        rfl
      show run _ ['=', '"'] = _
      rw [run_cons, hstep]
      rfl
    have hend : run ⟨.value tag read name value none, outer, before⟩ "\""
        = some ⟨.attributes tag (read ++ [(name, value)]), outer, before⟩ := rfl
    simp only [List.append_assoc]
    rw [run_append_of_eq hspace,
      run_append_of_eq (run_name hname), run_append_of_eq hequals,
      run_append_of_eq (collects_value.run_value (by decide) hvalue []), List.nil_append,
      run_append_of_eq hend, ih]
    · rw [List.append_assoc, List.singleton_append]
    · intro a ha b hb
      rcases List.mem_append.mp hb with hb | hb
      · exact hnew a (List.mem_cons_of_mem _ ha) b hb
      · rw [List.mem_singleton.mp hb]
        exact (hdistinct a ha).symm

/-- After the name of a start tag the reader is before its attributes. -/
theorem run_opening_end {c : CodePoint} (h : c.isNameChar = false) (t : Text) :
    run ⟨.opening tag, outer, before⟩ (c :: t)
      = run ⟨.attributes tag [], outer, before⟩ (c :: t) := by
  have hstep : step ⟨.opening tag, outer, before⟩ c
      = step ⟨.attributes tag [], outer, before⟩ c := if_neg (by rw [h]; decide)
  rw [run_cons, run_cons, hstep]

/-- The head of a tag: the bracket, the name and the attributes, before a character `c` that ends
it. -/
theorem run_head (htag : isName tag = true) (hattrs : AreAttributes written attrs)
    (hplace : outer.isEmpty = false ∨ before = []) {c : CodePoint} (hc : c.isNameChar = false)
    (t : Text) :
    run ⟨.content none, outer, before⟩ ("<" ++ tag ++ written ++ c :: t)
      = run ⟨.attributes tag attrs, outer, before⟩ (c :: t) := by
  cases tag with
  | nil => exact absurd htag (by decide)
  | cons d tag =>
    obtain ⟨hd, htag⟩ : d.isNameStart = true ∧ ∀ e ∈ tag, e.isNameChar = true := by
      simpa [isName] using htag
    have hslash : d ≠ '/' := ne_of_isNameChar (by simp [CodePoint.isNameChar, hd]) (by decide)
    -- a tag may start inside an element, or where nothing has been read yet
    have hinside : outer = [] → before = [] := by
      rintro rfl
      exact hplace.resolve_left (by decide)
    have hstart : run ⟨.content none, outer, before⟩ ['<', d]
        = some ⟨.opening [d], outer, before⟩ := by
      simpa [step, hslash, hd] using hinside
    have hread : run ⟨.attributes (d :: tag) [], outer, before⟩ written
        = some ⟨.attributes (d :: tag) attrs, outer, before⟩ := run_attributes hattrs [] nofun
    have hsplit : ("<" : Text) ++ (d :: tag) ++ written ++ c :: t
        = (['<', d] : Text) ++ (tag ++ (written ++ c :: t)) := by
      simp only [List.append_assoc, List.cons_append, List.nil_append]
      rfl
    rw [hsplit, run_append_of_eq hstart, run_append_of_eq (run_opening htag [d])]
    -- the first character after the name is a space, or `c` if there are no attributes
    cases hattrs with
    | nil => exact run_opening_end hc t
    | cons => exact (run_opening_end (by decide) _).trans (run_append_of_eq hread (c :: t))

/-- A start tag encloses what follows. -/
theorem run_startTag (htag : isName tag = true) (hattrs : AreAttributes written attrs)
    (hplace : outer.isEmpty = false ∨ before = []) :
    run ⟨.content none, outer, before⟩ ("<" ++ tag ++ written ++ ">")
      = some ⟨.content none, ⟨tag, attrs, before⟩ :: outer, []⟩ :=
  (run_head htag hattrs hplace (by decide) []).trans rfl

/-- An element with one tag is added to the content. -/
theorem run_emptyTag (htag : isName tag = true) (hattrs : AreAttributes written attrs)
    (hplace : outer.isEmpty = false ∨ before = []) :
    run ⟨.content none, outer, before⟩ ("<" ++ tag ++ written ++ "/>")
      = some ⟨.content none, outer, before ++ [.element tag attrs []]⟩ :=
  (run_head htag hattrs hplace (by decide) ['>']).trans rfl

/-- An end tag adds the element to the content before it. -/
theorem run_endTag (htag : isName tag = true) {content : List Xml} :
    run ⟨.content none, ⟨tag, attrs, before⟩ :: outer, content⟩ ("</" ++ tag ++ ">")
      = some ⟨.content none, outer, before ++ [.element tag attrs content]⟩ := by
  have hstart : run ⟨.content none, ⟨tag, attrs, before⟩ :: outer, content⟩ "</"
      = some ⟨.closing [], ⟨tag, attrs, before⟩ :: outer, content⟩ := rfl
  have hend : run ⟨.closing tag, ⟨tag, attrs, before⟩ :: outer, content⟩ ">"
      = some ⟨.content none, outer, before ++ [.element tag attrs content]⟩ := by
    show (step _ '>').bind _ = _
    rw [show step ⟨.closing tag, ⟨tag, attrs, before⟩ :: outer, content⟩ '>'
      = some ⟨.content none, outer, before ++ [.element tag attrs content]⟩ from if_pos rfl]
    rfl
  rw [List.append_assoc, run_append_of_eq hstart, run_append_of_eq (run_closing htag), hend]

/-- An element is added to the content if its own content is read between its tags. -/
theorem run_element (htag : isName tag = true) (hattrs : AreAttributes written attrs)
    (hplace : outer.isEmpty = false ∨ before = []) {inner : Text} {content : List Xml}
    (hinner : run ⟨.content none, ⟨tag, attrs, before⟩ :: outer, []⟩ inner
      = some ⟨.content none, ⟨tag, attrs, before⟩ :: outer, content⟩) :
    run ⟨.content none, outer, before⟩
        ("<" ++ tag ++ written ++ ">" ++ inner ++ "</" ++ tag ++ ">")
      = some ⟨.content none, outer, before ++ [.element tag attrs content]⟩ := by
  have hsplit : ("<" : Text) ++ tag ++ written ++ ">" ++ inner ++ "</" ++ tag ++ ">"
      = ("<" ++ tag ++ written ++ ">") ++ (inner ++ ("</" ++ tag ++ ">")) := by
    simp only [List.append_assoc]
  rw [hsplit, run_append_of_eq (run_startTag htag hattrs hplace), run_append_of_eq hinner,
    run_endTag htag]

/-! ## Content and documents

Content is derived from its end, and read from its start. So the induction keeps what has been read
before as a variable. -/

/-- Inside an element the reader adds the tree of a content to what it has read. -/
theorem run_content {t : Text} {xs : List Xml} (h : IsContent t xs) (e : Enclosing)
    (outer : List Enclosing) (before : List Xml) :
    run ⟨.content none, e :: outer, before⟩ t
      = some ⟨.content none, e :: outer, before ++ xs⟩ := by
  -- along the derivation; what has been read before is arbitrary, since each piece adds to it
  induction h generalizing e outer before with
  | nil => simp
  | @character w rest c xs hc _ ih =>
    have hread : run ⟨.content none, e :: outer, before⟩ w
        = some ⟨.content none, e :: outer, before ++ [.character c]⟩ := by
      simpa using (collects_content e before).run_character (by decide) hc []
    rw [run_append_of_eq hread, ih, List.append_assoc, List.singleton_append]
  | empty htag hattrs _ ih =>
    rw [run_append_of_eq (run_emptyTag htag hattrs (Or.inl rfl)), ih, List.append_assoc,
      List.singleton_append]
  | element htag hattrs _ _ ihInner ihRest =>
    rw [run_append_of_eq (run_element htag hattrs (Or.inl rfl) (ihInner _ _ _)), ihRest,
      List.append_assoc, List.singleton_append]
    rfl

/-- A text is the content of one sequence of trees at most. -/
theorem isContent_unique {t : Text} {xs ys : List Xml} (h : IsContent t xs) (h' : IsContent t ys) :
    xs = ys := by
  have hread := run_content h ⟨[], [], []⟩ [] []
  rw [run_content h'] at hread
  injection hread with hread
  injection hread with _ _ hcontent
  exact hcontent.symm

/-- Only an empty text has no content. -/
theorem eq_nil_of_isContent_nil {t : Text} (h : IsContent t []) : t = [] := by
  cases h
  rfl

/-- A root element is read from the start. -/
theorem run_root {t tag : Text} {attrs : List (Text × Text)} {content : List Xml}
    (h : IsContent t [.element tag attrs content]) :
    start.run t = some ⟨.content none, [], [.element tag attrs content]⟩ := by
  cases h with
  | empty htag hattrs hrest =>
    rw [eq_nil_of_isContent_nil hrest, List.append_nil]
    exact run_emptyTag htag hattrs (Or.inr rfl)
  | element htag hattrs hinner hrest =>
    -- outside the root `run_content` does not apply, inside it does
    rw [eq_nil_of_isContent_nil hrest, List.append_nil]
    exact run_element htag hattrs (Or.inr rfl) (run_content hinner _ _ _)

end Reader

/-- A document reads as the tree that it stands for. -/
theorem read?_of_isDocument {t : Text} {root : Xml} (h : IsDocument t root) :
    read? t = some root := by
  cases h with
  | mk hroot =>
    unfold read?
    rw [Text.dropLead?_append, Option.bind_eq_bind, Option.bind_some, Reader.run_root hroot]
    rfl

/-- A text stands for one tree at most. -/
theorem IsDocument.unique {t : Text} {root root' : Xml} (h : IsDocument t root)
    (h' : IsDocument t root') : root = root' := by
  have hread := read?_of_isDocument h
  rw [read?_of_isDocument h'] at hread
  exact (Option.some.inj hread).symm

end Wordsmith.Xml
