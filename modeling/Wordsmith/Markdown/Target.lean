import Wordsmith.Markdown.Line
import Wordsmith.Markdown.Reference
import Wordsmith.Text.CaseFold
import Wordsmith.Text.Percent

/-!
# Link targets

The address and title that a link or an image leads to, how they are written, and the definitions that
give them a label. Each reader here takes what it reads from the front of a text and returns the rest.
-/

namespace Wordsmith.Markdown

/-- Where a link or an image leads to. -/
structure Target where
  url : Text
  title : Text := []
deriving DecidableEq

/-- Code points that stand for themselves in an address. -/
def isAddressed (c : CodePoint) : Bool :=
  c.isLetter || c.isDigit || c.isIn "!#$%&'()*+,-./:;=?@_~"

/-- The address in its written form, percent-encoded. -/
def encodeAddress (t : Text) : Text := Text.percentEncode isAddressed t

/-- Control characters and the space end an address. -/
def endsAddress (c : CodePoint) : Bool := c.val ≤ 0x20 || c.val = 0x7F

/-- The text up to a closing mark, and what follows the mark. A mark after a backslash does not close;
a code point that is `refused` stands only after a backslash. -/
def upTo? (closing : CodePoint) (refused : CodePoint → Bool) : Text → Option (Text × Text)
  | [] => none
  | c :: t =>
    if c = closing then some ([], t)
    else if refused c then none
    else if c = '\\' then
      match t with
      | d :: t =>
        if d = '\n' then (upTo? closing refused (d :: t)).map fun (s, rest) => (c :: s, rest)
        else (upTo? closing refused t).map fun (s, rest) => (c :: d :: s, rest)
      | [] => none
    else (upTo? closing refused t).map fun (s, rest) => (c :: s, rest)
termination_by t => t.length

/-- The code points of an address without brackets, and the rest; `depth` counts open parentheses. -/
def bareAddress? (depth : Nat) : Text → Option (Text × Text)
  | [] => if depth = 0 then some ([], []) else none
  | c :: t =>
    if c = '\\' then
      match t with
      | d :: t =>
        if d.isAsciiPunctuation then (bareAddress? depth t).map fun (s, rest) => (c :: d :: s, rest)
        else (bareAddress? depth (d :: t)).map fun (s, rest) => (c :: s, rest)
      | [] => (bareAddress? depth []).map fun (s, rest) => (c :: s, rest)
    else if c = '(' then (bareAddress? (depth + 1) t).map fun (s, rest) => (c :: s, rest)
    else if c = ')' then
      -- one without an opening parenthesis is not part of the address
      if depth = 0 then some ([], c :: t)
      else (bareAddress? (depth - 1) t).map fun (s, rest) => (c :: s, rest)
    else if endsAddress c then if depth = 0 then some ([], c :: t) else none
    else (bareAddress? depth t).map fun (s, rest) => (c :: s, rest)
termination_by t => t.length

/-- An address, in angle brackets or bare. -/
def address? (t : Text) : Option (Text × Text) :=
  match t with
  | [] => none
  | c :: rest =>
    let written :=
      if c = '<' then upTo? '>' (·.isIn "<\n") rest
      else
        match bareAddress? 0 t with
        -- an empty address stands only before a closing parenthesis
        | some ([], rest) => if c = ')' then some ([], rest) else none
        | read => read
    written.map fun (s, rest) => (encodeAddress (unescape s), rest)

def title? (t : Text) : Option (Text × Text) :=
  let read :=
    match t with
    | [] => none
    | c :: rest =>
      if c.isIn "\"'" then upTo? c (fun _ => false) rest
      else if c = '(' then upTo? ')' (· = '(') rest
      else none
  read.map fun (s, rest) => (unescape s, rest)

/-- Drops blanks with at most one line feed among them. -/
def skipGap (t : Text) : Text :=
  match t.dropWhile isIndent with
  | c :: rest => if c = '\n' then rest.dropWhile isIndent else c :: rest
  | [] => []

/-- A title after an address, which blanks have to part from it. -/
def titleAfter? (t : Text) : Option (Text × Text) :=
  match t with
  | c :: _ => if isGap c then title? (skipGap t) else none
  | [] => none

/-- The target in parentheses after the words of a link; `t` is what follows the opening one. -/
def inlineTarget? (t : Text) : Option (Target × Text) := do
  let (url, rest) ← address? (skipGap t)
  let (title, rest) := (titleAfter? rest).getD ([], rest)
  match skipGap rest with
  | c :: rest => if c = ')' then some (⟨url, title⟩, rest) else none
  | [] => none

/-! ### Labels -/

/-- The label up to its closing bracket, and what follows; `t` is what follows the opening one. No
bracket stands in a label except after a backslash, and a label has fewer than 1000 code points. -/
def label? (t : Text) : Option (Text × Text) :=
  (upTo? ']' (· = '[') t).filter fun (label, _) => label.length < 1000

/-- Runs of blanks become one space; leading and trailing ones are dropped. -/
def collapse (t : Text) : Text :=
  let rec go (gap : Bool) : Text → Text
    | [] => []
    | c :: t =>
      if c.isIn " \t\n\r" then go true t
      else (if gap then [(' ' : CodePoint)] else []) ++ c :: go false t
  go false (t.dropWhile (·.isIn " \t\n\r"))

/-- Labels match if they differ only in case and in the number of blanks between their words. -/
def plainLabel (t : Text) : Text := (collapse t).fold

/-- The label of a target that a document defines, in its plain form. -/
structure Definition where
  label : Text
  target : Target
deriving DecidableEq

/-- Nothing but spaces and tabs stands before the end of the line; what follows the line. -/
def lineEnd? (t : Text) : Option Text :=
  match t.dropWhile isIndent with
  | [] => some []
  | c :: rest => if c = '\n' then some rest else none

/-- A definition that starts a paragraph, and the rest of the paragraph. -/
def definition? (t : Text) : Option (Definition × Text) := do
  match t with
  | [] => none
  | c :: t =>
    if c ≠ '[' then none
    else
      let (label, rest) ← label? t
      let name := plainLabel label
      match rest with
      | [] => none
      | d :: rest =>
        if d ≠ ':' || name.isEmpty then none
        else
          let (url, rest) ← address? (skipGap rest)
          let titled := do
            let (title, rest) ← titleAfter? rest
            let rest ← lineEnd? rest
            some (⟨name, ⟨url, title⟩⟩, rest)
          -- a title that does not end its line is none, and then the address has to end its own
          titled <|> (lineEnd? rest).map fun rest => (⟨name, ⟨url, []⟩⟩, rest)

/-- The definitions that a paragraph starts with, and the rest of it; `fuel` bounds their number. -/
def definitionsFrom : (fuel : Nat) → Text → List Definition × Text
  | 0, t => ([], t)
  | fuel + 1, t =>
    match definition? t with
    | some (d, rest) =>
      let (ds, rest) := definitionsFrom fuel rest
      (d :: ds, rest)
    | none => ([], t)

/-- The definitions that a paragraph starts with, and the rest of it. -/
def definitions (t : Text) : List Definition × Text := definitionsFrom t.length t

end Wordsmith.Markdown
