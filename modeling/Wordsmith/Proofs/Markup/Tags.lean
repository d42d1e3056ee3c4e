import Mathlib.Data.List.TakeWhile
import Wordsmith.Proofs.Markup.Attributes

/-!
# Tags in a text

A markup text can be cut into its tags and the characters between them without knowing how the tags
nest: a tag is what stands between a `<` and the next `>`. Printed markup ends outside of a tag, so
it is cut on its own whatever follows it (`Within.closed_print`). Hence

* `Within.countP_opens` — the tags with a name in a print are the elements with that tag, and
* `Within.mapTags_print` — changing the tags in a print is changing the attributes in the markup.

## Why the text can be cut

Names and escaped texts hold no bracket, so in most markup `<` begins a tag and `>` ends it. Verbatim
values are the exception: a lexicon that shows its tags (`Lexicon.ShowsTags`) keeps `<` out of them,
but a `>` may stand in a value and then ends the tag too early. What is left over is cut into
characters, since no `<` is among it (`Text.exists_lexemes_brackets`), and the next tag is found again.
-/

namespace Wordsmith

open Xml

/-- A stretch of a markup text. -/
inductive Lexeme where
  | tag (inside : Text)
  | character (c : CodePoint)
deriving DecidableEq

namespace Lexeme

/-- The lexeme as it stands in the text. -/
def written : Lexeme → Text
  | .tag inside => "<" ++ inside ++ ">"
  | .character c => [c]

/-- The lexeme with the inside of a tag changed. -/
def mapTag (f : Text → Text) : Lexeme → Lexeme
  | .tag inside => .tag (f inside)
  | .character c => .character c

/-- The name that a tag starts with; an end tag starts with none. -/
def tagName (inside : Text) : Text := inside.takeWhile CodePoint.isNameChar

/-- The lexeme is a start tag with this name, or a tag of an empty element. -/
def opens (name : String) : Lexeme → Bool
  | .tag inside => tagName inside = Text.ofString name
  | .character _ => false

end Lexeme

namespace Text

/-- The lexemes of a text; the state is what has been read of a tag. -/
def lexemesFrom : Option Text → Text → List Lexeme
  | none, [] => []
  -- a bracket that is never closed is a character
  | some inside, [] => ('<' :: inside : Text).map .character
  | none, c :: t => if c = '<' then lexemesFrom (some []) t else .character c :: lexemesFrom none t
  | some inside, c :: t =>
    if c = '>' then .tag inside :: lexemesFrom none t else lexemesFrom (some (inside ++ [c])) t

/-- The tags of a text and the characters between them, in order. -/
def lexemes (t : Text) : List Lexeme := lexemesFrom none t

/-- The text with the inside of each tag changed. -/
def mapTags (f : Text → Text) (t : Text) : Text :=
  t.lexemes.flatMap fun x => (x.mapTag f).written

/-- The text ends outside of a tag: what follows is cut on its own. -/
def Closed (t : Text) : Prop := ∀ rest, lexemes (t ++ rest) = lexemes t ++ lexemes rest

/-- Without a bracket every code point is a character, and what follows is cut on its own. -/
theorem lexemes_append_of_ne_open {t : Text} (h : ∀ c ∈ t, c ≠ '<') (rest : Text) :
    lexemes (t ++ rest) = t.map .character ++ lexemes rest := by
  unfold lexemes
  induction t with
  | nil => rfl
  | cons c t ih =>
    rw [List.cons_append, lexemesFrom, if_neg (h c List.mem_cons_self),
      ih fun d hd => h d (List.mem_cons_of_mem c hd)]
    rfl

/-- The same with nothing behind it. -/
theorem lexemes_of_ne_open {t : Text} (h : ∀ c ∈ t, c ≠ '<') : lexemes t = t.map .character := by
  have hself := lexemes_append_of_ne_open h []
  rw [List.append_nil] at hself
  exact hself.trans (List.append_nil _)

/-- Inside a tag the code points are gathered until the tag is closed. The induction is on what is left
of the tag, with what was read before it. -/
theorem lexemesFrom_some {inside : Text} (h : ∀ c ∈ inside, c ≠ '>') (read rest : Text) :
    lexemesFrom (some read) (inside ++ (">" ++ rest))
      = .tag (read ++ inside) :: lexemesFrom none rest := by
  induction inside generalizing read with
  | nil =>
    show lexemesFrom (some read) (CodePoint.ofChar '>' :: rest) = _
    rw [lexemesFrom, if_pos rfl, List.append_nil]
  | cons c inside ih =>
    rw [List.cons_append, lexemesFrom, if_neg (h c List.mem_cons_self),
      ih (fun d hd => h d (List.mem_cons_of_mem c hd)), List.append_assoc, List.singleton_append]

/-- A tag without a `>` in it is cut off as a whole. -/
theorem lexemes_tag {inside : Text} (h : ∀ c ∈ inside, c ≠ '>') (rest : Text) :
    lexemes ("<" ++ inside ++ ">" ++ rest) = .tag inside :: lexemes rest := by
  have hopen : lexemes (CodePoint.ofChar '<' :: (inside ++ (">" ++ rest)))
      = lexemesFrom (some []) (inside ++ (">" ++ rest)) := by
    rw [lexemes, lexemesFrom, if_pos rfl]
  rw [List.append_assoc, List.append_assoc]
  exact hopen.trans (lexemesFrom_some h [] rest)

/-- Tags without a `>` in them are cut off one by one. -/
theorem lexemes_tags {insides : List Text} (h : ∀ inside ∈ insides, ∀ c ∈ inside, c ≠ '>')
    (rest : Text) :
    lexemes ((insides.map .tag).flatMap Lexeme.written ++ rest)
      = insides.map .tag ++ lexemes rest := by
  induction insides with
  | nil => rfl
  | cons inside insides ih =>
    rw [List.map_cons, List.flatMap_cons, List.append_assoc, Lexeme.written,
      lexemes_tag (h inside List.mem_cons_self),
      ih fun t ht => h t (List.mem_cons_of_mem inside ht), List.cons_append]

/-- What stands before the first `>`. -/
def beforeClose (t : Text) : Text := t.takeWhile fun c => c ≠ '>'

/-- A tag may hold a `>` in a value. Then it is cut there, and what is left of it is characters. -/
theorem exists_lexemes_brackets {t : Text} (h : ∀ c ∈ t, c ≠ '<') :
    ∃ more : Text, ∀ rest, lexemes ("<" ++ t ++ ">" ++ rest)
      = .tag t.beforeClose :: more.map .character ++ lexemes rest := by
  have hinside : ∀ c ∈ t.beforeClose, c ≠ '>' := by
    intro c hc
    simpa using List.mem_takeWhile_imp hc
  -- the tag is what stands before the first `>`, and the rest of it
  have hsplit : t.beforeClose ++ t.dropWhile (fun c : CodePoint => c ≠ '>') = t :=
    List.takeWhile_append_dropWhile
  cases hmore : t.dropWhile (fun c : CodePoint => c ≠ '>') with
  | nil =>
    -- there is no `>` in the tag
    rw [hmore, List.append_nil] at hsplit
    refine ⟨[], fun rest => ?_⟩
    rw [hsplit] at hinside ⊢
    exact lexemes_tag hinside rest
  | cons c more =>
    -- the rest begins with the bracket where the first part was cut
    obtain rfl : c = '>' := by
      have hhead := List.head?_dropWhile_not (fun c : CodePoint => c ≠ '>') t
      rw [hmore] at hhead
      simpa using hhead
    rw [hmore] at hsplit
    have hrest : ∀ c ∈ more ++ ">", c ≠ '<' := by
      rw [List.forall_mem_append]
      refine ⟨fun c hc => h c ?_, by decide⟩
      rw [← hsplit]
      exact List.mem_append_right _ (List.mem_cons_of_mem _ hc)
    refine ⟨more ++ ">", fun rest => ?_⟩
    have hwhole : "<" ++ t ++ ">" ++ rest
        = "<" ++ t.beforeClose ++ ">" ++ ((more ++ ">") ++ rest) := by
      conv => lhs; rw [← hsplit]
      simp only [List.append_assoc, List.cons_append]
      rfl
    rw [hwhole, lexemes_tag hinside, lexemes_append_of_ne_open hrest]
    simp

namespace Closed

/-- Nothing ends outside of a tag. -/
theorem nil : Closed [] := fun _ => rfl

/-- Two such texts in a row are one. -/
theorem append {s t : Text} (hs : Closed s) (ht : Closed t) : Closed (s ++ t) := by
  intro rest
  rw [List.append_assoc, hs, ht, hs, List.append_assoc]

/-- Characters are outside of every tag. -/
theorem of_ne_open {t : Text} (h : ∀ c ∈ t, c ≠ '<') : Closed t := by
  intro rest
  rw [lexemes_append_of_ne_open h, lexemes_of_ne_open h]

/-- A tag is cut off in the same way, whatever follows. -/
theorem brackets {t : Text} (h : ∀ c ∈ t, c ≠ '<') : Closed ("<" ++ t ++ ">") := by
  intro rest
  obtain ⟨more, hmore⟩ := exists_lexemes_brackets h
  have hself := hmore []
  rw [List.append_nil] at hself
  rw [hmore, hself]
  exact congrArg (· ++ _) (List.append_nil _).symm

end Closed

/-! ## Changing tags

Cutting a text and writing the lexemes down again gives the text (`flatMap_written_lexemes`), so a
change of tags that changes no tag leaves the text alone. -/

/-- Nothing is lost in cutting a text. -/
theorem flatMap_written_lexemesFrom (read : Option Text) (t : Text) :
    (lexemesFrom read t).flatMap Lexeme.written
      = (read.elim [] fun inside => Text.ofString "<" ++ inside) ++ t := by
  induction t generalizing read with
  | nil =>
    cases read with
    | none => rfl
    | some inside =>
      -- the text has ended inside of a tag, whose bracket was a character then
      show ((CodePoint.ofChar '<' :: inside).map Lexeme.character).flatMap Lexeme.written = _
      rw [List.flatMap_map]
      exact (List.flatMap_singleton' _).trans (List.append_nil _).symm
  | cons c t ih =>
    cases read with
    | none =>
      rw [lexemesFrom]
      split
      · rename_i hc
        rw [ih, hc]
        rfl
      · rw [List.flatMap_cons, ih]
        rfl
    -- inside of a tag, which ends here or goes on
    | some inside =>
      rw [lexemesFrom]
      split
      · rename_i hc
        rw [List.flatMap_cons, ih, hc]
        simp only [Lexeme.written, Option.elim, List.append_assoc, List.nil_append]
        rfl
      · rw [ih]
        simp only [Option.elim, List.append_assoc, List.singleton_append]

theorem flatMap_written_lexemes (t : Text) : t.lexemes.flatMap Lexeme.written = t :=
  flatMap_written_lexemesFrom none t

variable {f : Text → Text}

/-- A change of tags goes through the two texts one after the other. -/
theorem mapTags_append {s : Text} (hs : Closed s) (t : Text) :
    mapTags f (s ++ t) = mapTags f s ++ mapTags f t := by
  unfold mapTags
  rw [hs, List.flatMap_append]

/-- Without tags there is nothing to change. -/
theorem mapTags_of_ne_open {t : Text} (h : ∀ c ∈ t, c ≠ '<') : mapTags f t = t := by
  unfold mapTags
  rw [lexemes_of_ne_open h, List.flatMap_map]
  exact List.flatMap_singleton' t

/-- A tag is changed as a whole if there is no `>` in it. -/
theorem mapTags_tag {t : Text} (h : ∀ c ∈ t, c ≠ '>') :
    mapTags f ("<" ++ t ++ ">") = "<" ++ f t ++ ">" := by
  have hself := lexemes_tag h []
  rw [List.append_nil] at hself
  unfold mapTags
  rw [hself]
  exact List.append_nil _

/-- A tag stays if the part of it that is cut off stays. -/
theorem mapTags_of_fixed {t : Text} (h : ∀ c ∈ t, c ≠ '<')
    (hf : f t.beforeClose = t.beforeClose) : mapTags f ("<" ++ t ++ ">") = "<" ++ t ++ ">" := by
  obtain ⟨more, hmore⟩ := exists_lexemes_brackets h
  have hself := hmore []
  rw [List.append_nil, lexemes, lexemes, lexemesFrom, List.append_nil] at hself
  have hwritten := flatMap_written_lexemes ("<" ++ t ++ ">")
  unfold mapTags
  unfold lexemes at hwritten ⊢
  rw [hself] at hwritten ⊢
  rw [List.flatMap_cons, List.flatMap_map] at hwritten ⊢
  -- the characters behind the cut stay anyway
  rw [Lexeme.mapTag, hf]
  exact hwritten

end Text

/-! ## Printed markup

A printed element is its start tag, its children and its end tag. Each of these ends outside of a tag,
so the lexemes of a print are those of its parts in order. -/

/-- No value that a lexicon lets stand as it is looks like a tag. -/
structure Lexicon.ShowsTags (l : Lexicon) : Prop extends l.Named where
  verbatim : ∀ tag t, l.verbatim tag t → ∀ c ∈ t, c ≠ '<'

namespace Markup

open Text

variable {l : Lexicon} {tag : String} {attributes : List Attribute} {m : Markup} {ms : List Markup}

/-- Neither the name nor the values of a tag hold a `<`. -/
theorem TagWithin.ne_open_of_mem (hl : l.ShowsTags) (h : TagWithin l tag attributes) {close : Text}
    (hclose : close = "" ∨ close = "/") {c : CodePoint}
    (hc : c ∈ printTag tag attributes ++ close) : c ≠ '<' := by
  rcases List.mem_append.mp hc with hc | hc
  · exact h.of_mem_printTag holdsInTags_ne_open hl.toNamed (hl.verbatim tag) hc
  · rcases hclose with rfl | rfl
    · exact absurd hc List.not_mem_nil
    · exact (by decide : ∀ c ∈ Text.ofString "/", c ≠ '<') c hc

/-- What stands in a printed tag after its name does not belong to the name. -/
theorem takeWhile_isNameChar_beforeClose (attributes : List Attribute) {close : Text}
    (hclose : close = "" ∨ close = "/") :
    (beforeClose (attributes.flatMap Attribute.print ++ close)).takeWhile CodePoint.isNameChar
      = [] := by
  cases attributes with
  | nil => rcases hclose with rfl | rfl <;> decide
  | cons a as => rfl

/-- The tag that is cut off starts with the name of the element, even if a value ended it early. -/
theorem TagWithin.tagName_eq (hl : l.ShowsTags) (h : TagWithin l tag attributes) {close : Text}
    (hclose : close = "" ∨ close = "/") :
    Lexeme.tagName (beforeClose (printTag tag attributes ++ close)) = Text.ofString tag := by
  have hname : ∀ c ∈ Text.ofString tag, c.isNameChar = true :=
    Reader.isNameChar_of_mem (h.isName hl.toNamed)
  -- a name holds no bracket and is cut by neither search
  have hclosed : ∀ c ∈ Text.ofString tag, decide (c ≠ '>') = true := fun c hc =>
    decide_eq_true (Reader.ne_of_isNameChar (hname c hc) (by decide))
  have hrest := takeWhile_isNameChar_beforeClose attributes hclose
  unfold beforeClose at hrest
  unfold Lexeme.tagName beforeClose printTag
  rw [List.append_assoc, List.takeWhile_append_of_pos hclosed, List.takeWhile_append_of_pos hname,
    hrest, List.append_nil]

/-- A printed tag ends outside of a tag. -/
theorem TagWithin.closed (hl : l.ShowsTags) (h : TagWithin l tag attributes) {close : Text}
    (hclose : close = "" ∨ close = "/") :
    Closed ("<" ++ (printTag tag attributes ++ close) ++ ">") :=
  .brackets fun _ => h.ne_open_of_mem hl hclose

/-- An end tag is a slash and a name. -/
theorem ne_of_mem_endTag (h : isName tag = true) {bracket : CodePoint}
    (hbracket : bracket = '<' ∨ bracket = '>') :
    ∀ c ∈ "/" ++ Text.ofString tag, c ≠ bracket := by
  rw [List.forall_mem_append]
  refine ⟨by rcases hbracket with rfl | rfl <;> decide, fun c hc =>
    Reader.ne_of_isNameChar (Reader.isNameChar_of_mem h c hc) ?_⟩
  rcases hbracket with rfl | rfl <;> decide

/-- So it is cut off as a whole. -/
theorem closed_endTag (h : isName tag = true) :
    Closed ("<" ++ ("/" ++ Text.ofString tag) ++ ">") :=
  .brackets (ne_of_mem_endTag h (Or.inl rfl))

/-- A sequence of prints ends outside of a tag if each of them does. -/
theorem closed_printAll (h : ∀ m ∈ ms, Closed m.print) : Closed (printAll ms) := by
  induction ms with
  | nil => exact .nil
  | cons m ms ih =>
    exact (h m List.mem_cons_self).append (ih fun n hn => h n (List.mem_cons_of_mem m hn))

/-- A printed element, with brackets around the tags. -/
theorem print_element_eq :
    (Markup.element tag attributes ms).print
      = "<" ++ (printTag tag attributes ++ Text.ofString "") ++ ">" ++
        (printAll ms ++ (Text.ofString "<" ++ ("/" ++ Text.ofString tag) ++ ">")) := by
  have hend : Text.ofString "</" = Text.ofString "<" ++ Text.ofString "/" := rfl
  have hempty : Text.ofString "" = [] := rfl
  rw [Markup.print, hend, hempty, List.append_nil]
  simp only [List.append_assoc]

/-- A printed empty element, likewise. -/
theorem print_empty_eq :
    (Markup.empty tag attributes).print
      = "<" ++ (printTag tag attributes ++ Text.ofString "/") ++ ">" := by
  have hend : Text.ofString "/>" = Text.ofString "/" ++ Text.ofString ">" := rfl
  rw [Markup.print, hend]
  simp only [List.append_assoc]

/-- Printed markup ends outside of a tag. -/
theorem Within.closed_print (hl : l.ShowsTags) (h : Within l m) : Closed m.print := by
  induction h with
  | text t =>
    rw [print]
    exact .of_ne_open fun _ => ne_open_of_mem_escape
  | empty htag =>
    rw [print_empty_eq]
    exact htag.closed hl (Or.inr rfl)
  | element htag _ ih =>
    rw [print_element_eq]
    exact (htag.closed hl (Or.inl rfl)).append
      ((closed_printAll ih).append (closed_endTag (htag.isName hl.toNamed)))

/-! ### Counting tags

Start tags and tags of empty elements have names, and end tags start with a slash and have none.
Counting the tags with a name in the text is therefore counting the elements. -/

/-- Characters open nothing. -/
theorem countP_opens_character {name : String} (t : Text) :
    (t.map Lexeme.character).countP (Lexeme.opens name) = 0 := by
  rw [List.countP_map, List.countP_eq_zero]
  exact fun _ _ => Bool.false_ne_true

/-- Of all that is cut off a tag, its first part has the name. -/
theorem countP_opens_brackets {name : String} {t : Text} (h : ∀ c ∈ t, c ≠ '<') :
    (lexemes ("<" ++ t ++ ">")).countP (Lexeme.opens name)
      = if Lexeme.tagName t.beforeClose = Text.ofString name then 1 else 0 := by
  obtain ⟨more, hmore⟩ := exists_lexemes_brackets h
  have hself := hmore []
  rw [List.append_nil] at hself
  rw [hself, List.countP_append, List.countP_cons, countP_opens_character]
  simp [Lexeme.opens, lexemes, lexemesFrom]

/-- An end tag has no name. -/
theorem countP_opens_endTag {name : String} (hname : name ≠ "") (h : isName tag = true) :
    (lexemes ("<" ++ ("/" ++ Text.ofString tag) ++ ">")).countP (Lexeme.opens name) = 0 := by
  -- a name does not start with a slash
  have htagName : Lexeme.tagName (beforeClose ("/" ++ Text.ofString tag)) = Text.ofString "" := rfl
  rw [countP_opens_brackets (ne_of_mem_endTag h (Or.inl rfl)), htagName,
    if_neg fun heq => hname (Text.ofString_inj.mp heq).symm]

/-- Counts add up along a sequence. -/
theorem countP_opens_printAll {name : String} (hclosed : ∀ m ∈ ms, Closed m.print)
    (h : ∀ m ∈ ms, (lexemes m.print).countP (Lexeme.opens name) = (find name [m]).length) :
    (lexemes (printAll ms)).countP (Lexeme.opens name) = (find name ms).length := by
  induction ms with
  | nil => rfl
  | cons m ms ih =>
    rw [printAll, hclosed m List.mem_cons_self, List.countP_append, h m List.mem_cons_self,
      ih (fun n hn => hclosed n (List.mem_cons_of_mem m hn))
        fun n hn => h n (List.mem_cons_of_mem m hn),
      find_cons name m ms, List.length_append]

/-- A tag of a lexicon is counted under its own name. -/
theorem TagWithin.countP_opens (hl : l.ShowsTags) (h : TagWithin l tag attributes)
    {name : String} {close : Text} (hclose : close = "" ∨ close = "/") :
    (lexemes ("<" ++ (printTag tag attributes ++ close) ++ ">")).countP (Lexeme.opens name)
      = if tag = name then 1 else 0 := by
  rw [countP_opens_brackets fun _ => h.ne_open_of_mem hl hclose, h.tagName_eq hl hclose]
  simp only [Text.ofString_inj]

/-- The tags with a name in a print are the elements that are found under the name. -/
theorem Within.countP_opens (hl : l.ShowsTags) (h : Within l m) {name : String}
    (hname : name ≠ "") :
    (lexemes m.print).countP (Lexeme.opens name) = (find name [m]).length := by
  induction h with
  | text t =>
    rw [print, lexemes_of_ne_open fun _ => ne_open_of_mem_escape, countP_opens_character, find_text]
    rfl
  | @empty t attributes htag =>
    rw [print_empty_eq, htag.countP_opens hl (Or.inr rfl)]
    split
    · rename_i heq
      rw [heq, find_empty_self]
      rfl
    · rename_i hne
      rw [find_empty_of_ne hne]
      rfl
  | @element t attributes children htag hchildren ih =>
    -- the children are cut on their own, between the start tag and the end tag
    have hclosed : ∀ n ∈ children, Closed n.print := fun n hn => (hchildren n hn).closed_print hl
    rw [print_element_eq, htag.closed hl (Or.inl rfl), List.countP_append,
      htag.countP_opens hl (Or.inl rfl), closed_printAll hclosed, List.countP_append,
      countP_opens_printAll hclosed ih, countP_opens_endTag hname (htag.isName hl.toNamed)]
    split
    · rename_i heq
      rw [heq, find_element_self, List.length_cons, Nat.add_zero, Nat.add_comm]
    · rename_i hne
      rw [find_element_of_ne hne, Nat.add_zero, Nat.zero_add]

/-! ### Changing tags

What a change of texts does to each tag, it does to a whole print. `Rewrites` states for single tags
that the change of the text is a change of the attributes; end tags have to stay. -/

/-- A change of tags in texts does to the tags of a lexicon what a change of attributes does. -/
structure Rewrites (l : Lexicon) (f : Text → Text)
    (g : String → List Attribute → List Attribute) : Prop where
  tag : ∀ {tag attributes} {close : Text}, TagWithin l tag attributes → close = "" ∨ close = "/" →
    mapTags f ("<" ++ (printTag tag attributes ++ close) ++ ">")
      = "<" ++ (printTag tag (g tag attributes) ++ close) ++ ">"
  endTag : ∀ {tag : String}, isName tag = true →
    f ("/" ++ Text.ofString tag) = "/" ++ Text.ofString tag

variable {f : Text → Text} {g : String → List Attribute → List Attribute}

/-- A sequence is changed print by print. -/
theorem mapTags_printAll (hclosed : ∀ m ∈ ms, Closed m.print)
    (h : ∀ m ∈ ms, mapTags f m.print = (m.mapAttributes g).print) :
    mapTags f (printAll ms) = printAll (ms.map (mapAttributes g)) := by
  induction ms with
  | nil => rfl
  | cons m ms ih =>
    rw [printAll, mapTags_append (hclosed m List.mem_cons_self), h m List.mem_cons_self,
      ih (fun n hn => hclosed n (List.mem_cons_of_mem m hn))
        fun n hn => h n (List.mem_cons_of_mem m hn)]
    rfl

/-- Changing the tags in a print is changing the attributes in the markup. -/
theorem Within.mapTags_print (hl : l.ShowsTags) (hf : Rewrites l f g) (h : Within l m) :
    mapTags f m.print = (m.mapAttributes g).print := by
  induction h with
  | text t =>
    rw [mapAttributes_text, print]
    exact mapTags_of_ne_open fun _ => ne_open_of_mem_escape
  | empty htag =>
    rw [mapAttributes_empty, print_empty_eq, print_empty_eq, hf.tag htag (Or.inr rfl)]
  | @element t attributes children htag hchildren ih =>
    have hclosed : ∀ n ∈ children, Closed n.print := fun n hn => (hchildren n hn).closed_print hl
    have hname : isName t = true := htag.isName hl.toNamed
    -- the end tag stays, and there is no bracket in it
    have hend : mapTags f ("<" ++ ("/" ++ Text.ofString t) ++ ">")
        = "<" ++ ("/" ++ Text.ofString t) ++ ">" := by
      rw [mapTags_tag (ne_of_mem_endTag hname (Or.inr rfl)), hf.endTag hname]
    rw [mapAttributes_element, print_element_eq, print_element_eq,
      mapTags_append (htag.closed hl (Or.inl rfl)), hf.tag htag (Or.inl rfl),
      mapTags_append (closed_printAll hclosed), mapTags_printAll hclosed ih, hend]

end Markup

end Wordsmith
