import Wordsmith.Proofs.Token.Html
import Wordsmith.Proofs.Token.Regular
import Wordsmith.Proofs.Token.Shown
import Wordsmith.Proofs.Tree.Leaves

/-!
# The words of an image

An image without words of its own takes its words from the tokens below it, and the same tokens can
be read as nodes. The words are what the leaves of these nodes are written with
(`Node.exists_alt_of_areInline`). So they are what the nodes show, unless there are breaks in them,
which leave no space between the words, or HTML, which is taken for words.

* `Token.AreInline` — the tokens in question: those of the inside of a line, in any nesting.
* `Node.AreWords` — that their words are those of the leaves, token by token.
* `Node.exists_alt_of_areInline` — so the words are what is shown, if and only if nothing is lost and
  nothing is added.
-/

namespace Wordsmith

open Datum Token

namespace Token

/-! ## Inline tokens

The words are gathered from the tokens (`allWords`), without asking for their types: a token with a
list below it has the words in the list, and any other has its raw text. So a token says here whether
there is a list below it. -/

/-- There is no list of tokens below this one. -/
def IsBare (fs : List (Text × Datum)) : Prop := ∀ ds, ¬ HasChildren fs ds

/-- Tokens of the inside of a line, nested in any way. -/
inductive AreInline : List Datum → Prop where
  | nil : AreInline []
  /-- Texts, code and HTML stand for their raw text. -/
  | raw {fs : List (Text × Datum)} {rest : List Datum} {t : Text}
      (htype : IsTyped "text" fs ∨ IsTyped "codespan" fs ∨ IsTyped "inline_html" fs)
      (hraw : HasRaw fs t) (hbare : IsBare fs) (hrest : AreInline rest) :
      AreInline (.record fs :: rest)
  /-- A break has no raw text. -/
  | space {fs : List (Text × Datum)} {rest : List Datum}
      (htype : IsTyped "linebreak" fs ∨ IsTyped "softbreak" fs) (hraw : raw fs = [])
      (hbare : IsBare fs) (hrest : AreInline rest) : AreInline (.record fs :: rest)
  | emphasis {fs : List (Text × Datum)} {inner rest : List Datum}
      (htype : IsTyped "strong" fs ∨ IsTyped "emphasis" fs ∨ IsTyped "strikethrough" fs)
      (hchildren : HasChildren fs inner) (hinner : AreInline inner) (hrest : AreInline rest) :
      AreInline (.record fs :: rest)
  | link {fs attrs : List (Text × Datum)} {inner rest : List Datum} (htype : IsTyped "link" fs)
      (hattrs : HasAttributes fs attrs) (hchildren : HasInline fs inner) (hinner : AreInline inner)
      (hrest : AreInline rest) : AreInline (.record fs :: rest)
  /-- An image has its words below it. -/
  | image {fs attrs : List (Text × Datum)} {inner rest : List Datum} (htype : IsTyped "image" fs)
      (hattrs : HasAttributes fs attrs) (hown : hasOwnWords fs = false)
      (hchildren : HasChildren fs inner) (hinner : AreInline inner) (hrest : AreInline rest) :
      AreInline (.record fs :: rest)

section Words

variable {fs : List (Text × Datum)} {ds : List Datum}

/-- Without a list below it, a token has its raw text for words. -/
theorem words_of_isBare (h : IsBare fs) : words (.record fs) = raw fs := by
  rw [words]
  split
  · rename_i cs hcs
    exact absurd hcs (h cs)
  · rfl

/-- With one, it has the words of the list. -/
theorem words_of_hasChildren (h : HasChildren fs ds) : words (.record fs) = allWords ds := by
  rw [words]
  split
  · rename_i cs hcs
    rw [h] at hcs
    cases hcs
    rfl
  · rename_i hnone
    exact absurd h (hnone ds)

/-- The words below an image stand in for those that it does not have. -/
theorem imageWords_of_hasChildren {attrs : List (Text × Datum)} (hattrs : HasAttributes fs attrs)
    (hown : hasOwnWords fs = false) (hchildren : HasChildren fs ds) :
    imageWords attrs fs = .ok (allWords ds) := by
  -- no words of its own means that the attribute is empty
  have hgiven : (attributeOr attrs fs "alt" "alt" (.text [])).textIfPresent.isEmpty = true := by
    rw [hasOwnWords, Node.attributes_of_hasAttributes hattrs] at hown
    simpa using hown
  rw [imageWords, hchildren]
  simp only [hgiven, if_true]
  cases ds with
  | nil =>
    rw [allWords]
    rfl
  | cons d ds => rfl

end Words

end Token

namespace Node

/-! ## Words and leaves

Reading and gathering go through the tokens in the same order. A token that is a leaf when read has one
piece of text, and one that holds others has theirs. -/

/-- The tokens are read as these nodes, and their words are what the leaves of the nodes are written
with. -/
structure AreWords (ds : List Datum) (nodes : List Node) : Prop where
  read : ofTokens ds = .ok nodes
  written : allWords ds = (allLeaves nodes).flatMap writtenText

namespace AreWords

variable {d : Datum} {ds : List Datum} {n : Node} {nodes : List Node}

/-- No tokens have no words. -/
theorem nil : AreWords [] [] := ⟨ofTokens_nil, by rw [allWords]; rfl⟩

/-- A token in front, whose words are those of its leaves. -/
theorem cons (h : AreWords ds nodes) (hread : ofToken d = .ok (some n))
    (hwritten : words d = n.leaves.flatMap writtenText) : AreWords (d :: ds) (n :: nodes) where
  read := ofTokens_cons hread h.read
  written := by rw [allWords, hwritten, h.written, allLeaves, List.flatMap_append]

/-- A token that stands for itself has the words that its node is written with. -/
theorem cons_leaf (h : AreWords ds nodes) (hread : ofToken d = .ok (some n))
    (hleaf : n.kind.isLeaf = true) (hwritten : words d = n.writtenText) :
    AreWords (d :: ds) (n :: nodes) :=
  h.cons hread (by rw [leaves_of_isLeaf hleaf, hwritten, List.flatMap_singleton])

/-- A token over others has their words. -/
theorem cons_holder {fs : List (Text × Datum)} {inner : List Datum} (h : AreWords ds nodes)
    (hread : ofToken (.record fs) = .ok (some n)) (hleaf : n.kind.isLeaf = false)
    (hchildren : HasChildren fs inner) (hinner : AreWords inner n.children) :
    AreWords (.record fs :: ds) (n :: nodes) :=
  h.cons hread (by
    rw [words_of_hasChildren hchildren, hinner.written, leaves_of_not_isLeaf hleaf])

end AreWords

/-- Inline tokens can be read, and the nodes are written with the same words. The induction is on how
the tokens are nested: each rule adds one token in front. -/
theorem exists_areWords {ds : List Datum} (h : AreInline ds) : ∃ nodes, AreWords ds nodes := by
  induction h with
  | nil => exact ⟨[], .nil⟩
  | raw htype hraw hbare _ ih =>
    obtain ⟨rest, hrest⟩ := ih
    have hwritten := (words_of_isBare hbare).trans (raw_of_hasRaw hraw)
    rcases htype with htype | htype | htype
    · have hread := ofToken_word .text .text (type?_of_isTyped htype) (by decide) hraw
      exact ⟨_, hrest.cons_leaf hread rfl hwritten⟩
    · have hread := ofToken_word .codeSpan .inlineCode (type?_of_isTyped htype) (by decide) hraw
      exact ⟨_, hrest.cons_leaf hread rfl hwritten⟩
    · have hread := ofToken_word .inlineHtml .html (type?_of_isTyped htype) (by decide) hraw
      exact ⟨_, hrest.cons_leaf hread rfl hwritten⟩
  | space htype hraw hbare _ ih =>
    obtain ⟨rest, hrest⟩ := ih
    obtain ⟨kind, hkind, hread⟩ := ofToken_space htype
    have hleaf : kind.isLeaf = true := by cases kind <;> first | rfl | cases hkind
    -- only images are written with other words than their raw text
    have himage : kind ≠ .image := by rintro rfl; cases hkind
    refine ⟨_, hrest.cons_leaf hread hleaf ?_⟩
    rw [words_of_isBare hbare, hraw, writtenText, if_neg himage]
  | emphasis htype hchildren _ _ ihInner ih =>
    obtain ⟨rest, hrest⟩ := ih
    obtain ⟨inner, hinner⟩ := ihInner
    obtain ⟨kind, mark, hmark, hread⟩ :=
      ofToken_emphasis htype (content_of_hasChildren hchildren hinner.read)
    have hleaf : kind.isLeaf = false := by cases kind <;> first | rfl | cases hmark
    exact ⟨_, hrest.cons_holder hread hleaf hchildren hinner⟩
  | link htype hattrs hchildren _ _ ihInner ih =>
    obtain ⟨rest, hrest⟩ := ih
    obtain ⟨inner, hinner⟩ := ihInner
    have hread := ofToken_link htype hattrs (contentOrText_of_hasInline hchildren hinner.read)
    exact ⟨_, hrest.cons_holder hread rfl hchildren.children hinner⟩
  | image htype hattrs hown hchildren _ _ _ ih =>
    obtain ⟨rest, hrest⟩ := ih
    have hread := ofToken_image htype hattrs
      (imageWords_of_hasChildren hattrs hown hchildren)
    exact ⟨_, hrest.cons_leaf hread rfl (words_of_hasChildren hchildren)⟩

/-- An image without words of its own has the words that the leaves below it are written with. If
there is no HTML below it, these are what is shown if and only if there are no breaks; and if there
are no breaks, if and only if there is no HTML. -/
theorem exists_alt_of_areInline {fs attrs : List (Text × Datum)} {ds : List Datum}
    (htype : IsTyped "image" fs) (hattrs : HasAttributes fs attrs) (hown : hasOwnWords fs = false)
    (hchildren : HasChildren fs ds) (h : AreInline ds) :
    ∃ nodes node, ofTokens ds = .ok nodes ∧ ofToken (.record fs) = .ok (some node) ∧
      node.kind = .image ∧ node.alt = (allLeaves nodes).flatMap writtenText ∧
      ((∀ n ∈ allLeaves nodes, n.kind = .html → n.text = []) →
        (node.alt = plainTexts nodes ↔ ∀ n ∈ allLeaves nodes, n.kind.isBreak = false)) ∧
      ((∀ n ∈ allLeaves nodes, n.kind.isBreak = false) →
        (node.alt = plainTexts nodes ↔ ∀ n ∈ allLeaves nodes, n.kind = .html → n.text = [])) := by
  obtain ⟨nodes, hnodes⟩ := exists_areWords h
  have hregular : ∀ n ∈ nodes, n.Throughout IsRegular := fun n hn =>
    ((yieldsRegular ds).tokens nodes hnodes.read n hn).2
  have hread := ofToken_image htype hattrs
    (imageWords_of_hasChildren hattrs hown hchildren)
  rw [hnodes.written] at hread
  exact ⟨nodes, _, hnodes.read, hread, rfl, rfl, flatMap_writtenText_eq_iff_of_html hregular,
    flatMap_writtenText_eq_iff_of_isBreak hregular⟩

/-! ## Two lines below an image

A break between two words has no raw text, so the words run together, while what is shown has a space
there. -/

/-- An image with nothing but these tokens below it. -/
def imageOver (ds : List Datum) : List (Text × Datum) :=
  [("type", .text "image"), ("children", .list ds)]

/-- It has no attributes, so there are no words among them. -/
theorem hasAttributes_imageOver (ds : List Datum) : HasAttributes (imageOver ds) [] := rfl

/-- Words on two lines, the second one emphasised and with an image in it. -/
def brokenWords : List Datum :=
  [word "a", .record [("type", .text "softbreak")],
    .record [("type", .text "emphasis"), ("children", .list
      [word "b", .record (imageOver [word "c"])])]]

/-- The nodes that these tokens are read as. -/
def brokenNodes : List Node :=
  [.ofText "a", { kind := .softBreak },
    { kind := .italic, children := [.ofText "b", { kind := .image, alt := "c" }] }]

/-- The tokens are inline tokens, down to the word below the inner image. -/
theorem areInline_brokenWords : AreInline brokenWords := by
  have hword : ∀ (t : Text) {rest : List Datum}, AreInline rest → AreInline (word t :: rest) :=
    fun t _ hrest => .raw (Or.inl rfl) rfl nofun hrest
  have himage : AreInline [.record (imageOver [word "c"])] :=
    .image rfl (hasAttributes_imageOver _) rfl rfl (hword "c" .nil) .nil
  exact hword "a" (.space (Or.inr rfl) rfl nofun
    (.emphasis (Or.inr (Or.inl rfl)) rfl (hword "b" himage) .nil))

/-- They are read as these nodes. -/
theorem ofTokens_brokenWords : ofTokens brokenWords = .ok brokenNodes := by
  have habsent : (Datum.text []).textIfPresent = [] := rfl
  simp [brokenWords, brokenNodes, word, imageOver, ofTokens, ofToken, type?, field?, Text.isLiteral,
    Text.ofString_inj, lookup?, TokenType.names, content_eq, ofContent_eq, raw, toText, attributes,
    fields, attributeOr, habsent, imageWords, isTruthy, contentWords, allWords, words, ofText, bind,
    Except.bind, pure, Except.pure]

/-- The image has the words `abc`, where `a bc` would be shown. -/
theorem exists_alt_of_areInline_brokenWords : AreInline brokenWords ∧
    ∃ node, ofToken (.record (imageOver brokenWords)) = .ok (some node) ∧
      node.alt = Text.ofString "abc" ∧ plainTexts brokenNodes = Text.ofString "a bc" := by
  have htype : IsTyped "image" (imageOver brokenWords) := rfl
  obtain ⟨nodes, node, hnodes, hread, -, halt, -, -⟩ := exists_alt_of_areInline htype
    (hasAttributes_imageOver _) rfl rfl areInline_brokenWords
  rw [ofTokens_brokenWords] at hnodes
  cases hnodes
  exact ⟨areInline_brokenWords, node, hread, halt, rfl⟩

end Node

end Wordsmith
