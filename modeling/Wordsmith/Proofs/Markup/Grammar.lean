import Wordsmith.Package.Vocabulary

/-!
# The grammar of markup texts

What a text has to look like to be a well-formed document, independently of how it is printed. The
productions are those of XML 1.0 for documents of elements, attributes and character data; there are
no comments, sections or processing instructions besides the declaration at the start.

* `IsCharacter` — a character in content or in an attribute value: it stands for itself, or is one
  of the five predefined entities. Neither `<` nor a bare `&` stands for itself.
* `AreAttributes` — the attributes of a tag, none of them repeated.
* `IsContent` — character data and elements, each start tag closed by the end tag of its name.
* `IsDocument` — the declaration and one root element.

A text that the grammar derives stands for a tree, `Xml`, whose leaves are characters; the
functions at the end ask for parts of it in document order.
-/

namespace Wordsmith

/-- What a well-formed text stands for: elements, and the characters between them. -/
inductive Xml where
  | character (c : CodePoint)
  | element (tag : Text) (attributes : List (Text × Text)) (content : List Xml)

namespace CodePoint

/-- A code point that may occur in a document: `Char` of XML 1.0. -/
def isXmlChar (c : CodePoint) : Bool :=
  c.val = 0x9 || c.val = 0xA || c.val = 0xD || (0x20 ≤ c.val && c.val ≤ 0xD7FF) ||
    (0xE000 ≤ c.val && c.val ≤ 0xFFFD) || 0x10000 ≤ c.val

/-- A character that may start the name of an element or an attribute. -/
def isNameStart (c : CodePoint) : Bool := c.isLetter || c = ':' || c = '_'

/-- A character that may stand in such a name. -/
def isNameChar (c : CodePoint) : Bool := c.isNameStart || c.isDigit || c = '-' || c = '.'

end CodePoint

namespace Xml

/-- The predefined entities: their names and what they stand for. -/
def entities : List (Text × CodePoint) :=
  [("amp", '&'), ("lt", '<'), ("gt", '>'), ("quot", '"'), ("apos", '\'')]

/-- A name of an element or an attribute. -/
def isName : Text → Bool
  | [] => false
  | c :: t => c.isNameStart && t.all CodePoint.isNameChar

/-! ## Productions -/

/-- `IsCharacter stop written c`: the text `written` is one character, `c`, where `stop` may not
stand for itself. -/
inductive IsCharacter (stop : CodePoint) : Text → CodePoint → Prop where
  | plain (c : CodePoint) (hlt : c ≠ '<') (hamp : c ≠ '&') (hstop : c ≠ stop) :
      IsCharacter stop [c] c
  | reference (name : Text) (c : CodePoint) (h : (name, c) ∈ entities) :
      IsCharacter stop ("&" ++ name ++ ";") c

/-- `IsValue stop written shown`: the characters of `written` are those of `shown`. -/
inductive IsValue (stop : CodePoint) : Text → Text → Prop where
  | nil : IsValue stop [] []
  | cons {w ws shown : Text} {c : CodePoint}
      (hc : IsCharacter stop w c) (hrest : IsValue stop ws shown) :
      IsValue stop (w ++ ws) (c :: shown)

/-- The attributes of a tag as they are written, each after a space. No name occurs twice. -/
inductive AreAttributes : Text → List (Text × Text) → Prop where
  | nil : AreAttributes [] []
  | cons {name written value rest : Text} {attributes : List (Text × Text)}
      (hname : isName name = true) (hvalue : IsValue '"' written value)
      (hnew : ∀ a ∈ attributes, a.1 ≠ name) (hrest : AreAttributes rest attributes) :
      AreAttributes (" " ++ name ++ "=\"" ++ written ++ "\"" ++ rest)
        ((name, value) :: attributes)

/-- Content: characters, empty elements written with one tag, and elements with a start tag, content
and the end tag of the same name. -/
inductive IsContent : Text → List Xml → Prop where
  | nil : IsContent [] []
  | character {w rest : Text} {c : CodePoint} {xs : List Xml}
      (hc : IsCharacter '>' w c) (hrest : IsContent rest xs) :
      IsContent (w ++ rest) (.character c :: xs)
  | empty {tag written rest : Text} {attributes : List (Text × Text)} {xs : List Xml}
      (htag : isName tag = true) (hattrs : AreAttributes written attributes)
      (hrest : IsContent rest xs) :
      IsContent ("<" ++ tag ++ written ++ "/>" ++ rest) (.element tag attributes [] :: xs)
  | element {tag written inner rest : Text} {attributes : List (Text × Text)}
      {content xs : List Xml}
      (htag : isName tag = true) (hattrs : AreAttributes written attributes)
      (hinner : IsContent inner content) (hrest : IsContent rest xs) :
      IsContent ("<" ++ tag ++ written ++ ">" ++ inner ++ "</" ++ tag ++ ">" ++ rest)
        (.element tag attributes content :: xs)

/-- A document: the declaration, and one root element. -/
inductive IsDocument : Text → Xml → Prop where
  | mk {body tag : Text} {attributes : List (Text × Text)} {content : List Xml}
      (hroot : IsContent body [.element tag attributes content]) :
      IsDocument (Vocabulary.declaration ++ body) (.element tag attributes content)

/-- A well-formed document: the grammar derives it, and it consists of permitted characters. -/
structure IsWellFormed (t : Text) (root : Xml) : Prop where
  document : IsDocument t root
  characters : ∀ c ∈ t, c.isXmlChar = true

/-! ## Parts of a tree -/

/-- The content of an element; a character has none. -/
def content : Xml → List Xml
  | .character _ => []
  | .element _ _ content => content

/-- The attributes of an element; a character has none. -/
def attributes : Xml → List (Text × Text)
  | .character _ => []
  | .element _ attributes _ => attributes

/-- The value of an attribute. -/
def attribute? (name : String) (x : Xml) : Option Text := x.attributes.lookup (Text.ofString name)

/-- The character of a node, absent for an element. -/
def character? : Xml → Option CodePoint
  | .character c => some c
  | .element .. => none

/-- The characters that stand directly in an element. -/
def text (x : Xml) : Text := x.content.filterMap character?

mutual

/-- The elements with this tag, an element before those in its content. -/
def tagged (tag : String) : Xml → List Xml
  | .character _ => []
  | .element t attributes content =>
    (if t = tag then [.element t attributes content] else []) ++ taggedAll tag content

/-- The elements with this tag in a sequence, in document order. -/
def taggedAll (tag : String) : List Xml → List Xml
  | [] => []
  | x :: xs => tagged tag x ++ taggedAll tag xs

end

mutual

/-- The names of all elements and attributes in a tree. -/
def names : Xml → List Text
  | .character _ => []
  | .element tag attributes content => tag :: attributes.map (·.1) ++ namesAll content

/-- The names of all elements and attributes in a sequence. -/
def namesAll : List Xml → List Text
  | [] => []
  | x :: xs => names x ++ namesAll xs

end

/-! Both walks go through a sequence from left to right, and find nothing in characters. -/

@[simp] theorem taggedAll_append (tag : String) (xs ys : List Xml) :
    taggedAll tag (xs ++ ys) = taggedAll tag xs ++ taggedAll tag ys := by
  induction xs with
  | nil => rfl
  | cons x xs ih => rw [List.cons_append, taggedAll, ih, taggedAll, List.append_assoc]

@[simp] theorem namesAll_append (xs ys : List Xml) :
    namesAll (xs ++ ys) = namesAll xs ++ namesAll ys := by
  induction xs with
  | nil => rfl
  | cons x xs ih => rw [List.cons_append, namesAll, ih, namesAll, List.append_assoc]

@[simp] theorem taggedAll_characters (tag : String) (t : Text) :
    taggedAll tag (t.map .character) = [] := by
  induction t with
  | nil => rfl
  | cons c t ih => rw [List.map_cons, taggedAll, ih]; rfl

@[simp] theorem namesAll_characters (t : Text) : namesAll (t.map .character) = [] := by
  induction t with
  | nil => rfl
  | cons c t ih => rw [List.map_cons, namesAll, ih]; rfl

/-- Each name with a colon starts with a namespace that the root declares. The namespaces `xml` and
`xmlns` need no declaration. -/
def PrefixesDeclared (root : Xml) : Prop :=
  ∀ name ∈ root.names, ∀ space rest : Text, name.splitFirst? ':' = some (space, rest) →
    space = "xml" ∨ space = "xmlns" ∨ ∃ value, ("xmlns:" ++ space, value) ∈ root.attributes

end Xml

end Wordsmith
