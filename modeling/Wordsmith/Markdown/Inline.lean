import Wordsmith.Markdown.Emphasis
import Wordsmith.Markdown.Html

/-!
# Reading inline content

`Span.ofText` goes through a text once. Code, raw HTML and addresses in angle brackets are taken where
they start; marks of emphasis are kept as runs; an opening bracket opens a frame, and the closing one
either makes a link or an image of it or gives it back as text. The emphasis inside a link is resolved
when the link is made, all other at the end. Where several code points are taken at once, the walk goes
over them without looking (`skip`).
-/

namespace Wordsmith.Markdown

/-! ### Constructs that are taken where they start -/

/-- The number of code points equal to `c` that a text starts with. -/
def runLength (c : CodePoint) (t : Text) : Nat := (t.takeWhile (· = c)).length

/-- The text up to the next run of exactly `length` backticks, and the number of code points up to its
end; `run` counts the backticks just before, and `done` is what stands before those, last one first. -/
def codeUpTo? (length : Nat) (run : Nat) (done : Text) (count : Nat) : Text → Option (Text × Nat)
  | [] => if run = length then some (done.reverse, count) else none
  | c :: t =>
    if c = '`' then codeUpTo? length (run + 1) done (count + 1) t
    else if run = length then some (done.reverse, count)
    else codeUpTo? length 0 (c :: (List.replicate run ('`' : CodePoint) ++ done)) (count + 1) t

/-- The text of a code span. Line feeds read as spaces. -/
def codeText (t : Text) : Text :=
  let t := t.map fun (c : CodePoint) => if c = '\n' then (' ' : CodePoint) else c
  -- one space at either end is dropped, unless there is nothing but spaces
  if t.head? = some ' ' && t.getLast? = some ' ' && t.any (· ≠ ' ') then (t.drop 1).dropLast else t

/-- Code points of a scheme after its first letter. -/
def continuesScheme (c : CodePoint) : Bool := c.isLetter || c.isDigit || c.isIn "+.-"

/-- Code points that stand in the part of a mail address before its sign. -/
def isMailName (c : CodePoint) : Bool :=
  c.isLetter || c.isDigit || c.isIn ".!#$%&'*+/=?^_`\x7b|\x7d~-"

/-- A part of the name of a host: letters, digits and inner hyphens, at most 63 of them. -/
def isHostPart (t : Text) : Bool :=
  !t.isEmpty && t.length ≤ 63 && t.all (fun c => c.isLetter || c.isDigit || c = '-') &&
    t.head? ≠ some '-' && t.getLast? ≠ some '-'

/-- The text is an address with a scheme of two to 32 letters. -/
def isUri (t : Text) : Bool :=
  match Text.splitFirst? ':' t with
  | some (scheme, rest) =>
    scheme.head?.any CodePoint.isLetter && scheme.all continuesScheme && 2 ≤ scheme.length &&
      scheme.length ≤ 32 && rest.all fun c => !(c.isIn "<>" || endsAddress c)
  | none => false

def isMail (t : Text) : Bool :=
  match Text.splitFirst? '@' t with
  | some (name, host) =>
    !name.isEmpty && name.all isMailName && (Text.splitAll '.' host).all isHostPart
  | none => false

/-- The link that an address in angle brackets makes, and what follows it; `t` is what follows the
opening bracket. -/
def autolink? (t : Text) : Option (Span × Text) :=
  match Text.splitFirst? '>' t with
  | some (written, rest) =>
    if isUri written then some (.link ⟨encodeAddress written, []⟩ [.text written], rest)
    else if isMail written then
      some (.link ⟨encodeAddress ("mailto:" ++ written), []⟩ [.text written], rest)
    else none
  | none => none

/-- What an opening angle bracket starts, and what follows it. -/
def angled? (t : Text) : Option (Span × Text) :=
  (autolink? t).or ((afterHtml? t).map fun rest =>
    (.html ('<' :: t.take (t.length - rest.length)), rest))

/-! ### The walk -/

structure BracketFrame where
  image : Bool
  /-- No link has been made around or after the bracket that it would have to contain. -/
  active : Bool
  /-- The pieces before the bracket, last one first. -/
  before : List Piece
  /-- What follows the bracket. -/
  source : Text

/-- The bracket as text. -/
def BracketFrame.span (f : BracketFrame) : Span := .text (if f.image then "![" else "[")

/-- The open brackets, innermost first, and the pieces after the innermost one, last one first. -/
structure InlineState where
  frames : List BracketFrame
  pieces : List Piece

namespace InlineState

def add (st : InlineState) (p : Piece) : InlineState := { st with pieces := p :: st.pieces }

def addSpan (st : InlineState) (s : Span) : InlineState := st.add (.span s)

def addText (st : InlineState) (t : Text) : InlineState := st.addSpan (.text t)

/-- Opens a bracket; `source` is what follows it. -/
def openBracket (st : InlineState) (image : Bool) (source : Text) : InlineState :=
  ⟨⟨image, true, st.pieces, source⟩ :: st.frames, []⟩

/-- The pieces of the innermost frame, with its bracket as text. -/
def giveBack (frame : BracketFrame) (pieces : List Piece) : List Piece :=
  pieces ++ .span frame.span :: frame.before

/-- All pieces, in order, open brackets as text. -/
def allPieces (st : InlineState) : List Piece :=
  (st.frames.foldl (fun pieces frame => giveBack frame pieces) st.pieces).reverse

/-- The spans in the innermost frame. -/
def content (st : InlineState) : List Span := resolve st.pieces.reverse

end InlineState

/-- The target with a label, of those that a document defines. -/
def lookupTarget (definitions : List Definition) (label : Text) : Option Target :=
  match definitions with
  | [] => none
  | definitions =>
    let name := plainLabel label
    if name.isEmpty then none
    -- of two definitions with one label the first counts
    else (definitions.find? fun d => d.label = name).map (·.target)

/-- The target of a bracket that closes, and what follows its notation. `t` is what follows the closing
bracket. -/
def targetAfter? (definitions : List Definition) (words t : Text) : Option (Target × Text) :=
  let byWords := lookupTarget definitions words
  match t with
  | [] => byWords.map (·, [])
  | c :: rest =>
    -- a target in parentheses, or a label in brackets, or else the words themselves as label
    let inline := if c = '(' then inlineTarget? rest else none
    let byLabel : Option (Target × Text) :=
      match if c = '[' then label? rest else none with
      | some (label, after) =>
        if label.isEmpty then byWords.map (·, after)
        else if (plainLabel label).isEmpty then byWords.map (·, t)
        else (lookupTarget definitions label).map (·, after)
      | none => byWords.map (·, t)
    inline.or byLabel

/-- Drops blanks at the end of pieces that are held last one first; the number of spaces that stood
last. -/
def dropBlanks : List Piece → List Piece × Nat
  | .span (.text [c]) :: rest =>
    if c = ' ' then
      let (rest, spaces) := dropBlanks rest
      (rest, spaces + 1)
    else if c = '\t' then ((dropBlanks rest).1, 0)
    else (.span (.text [c]) :: rest, 0)
  | pieces => (pieces, 0)

/-- Closes the innermost bracket. Also the number of code points that are taken after the closing
one. -/
def closeBracket (definitions : List Definition) (st : InlineState) (t : Text) : InlineState × Nat :=
  match st.frames with
  | [] => (st.addText "]", 0)
  | frame :: frames =>
    let words := frame.source.take (frame.source.length - t.length - 1)
    match if frame.active then targetAfter? definitions words t else none with
    | some (target, rest) =>
      let span : Span :=
        if frame.image then .image target st.content else .link target st.content
      -- no link stands in another one
      let frames :=
        if frame.image then frames
        else frames.map fun f => if f.image then f else { f with active := false }
      (⟨frames, .span span :: frame.before⟩, t.length - rest.length)
    | none =>
      let st : InlineState := ⟨frames, InlineState.giveBack frame st.pieces⟩
      (st.addText "]", 0)

/-- Takes what starts with `c`, which stands after `before` and in front of `t`. Also the number of code
points of `t` that are taken with it. -/
def takeInline (definitions : List Definition) (st : InlineState) (before : Option CodePoint)
    (c : CodePoint) (t : Text) : InlineState × Nat :=
  if c = '\\' then
    match t with
    | d :: rest =>
      if d = '\n' then (st.addSpan .hardBreak, 1 + (rest.takeWhile isIndent).length)
      else if d.isAsciiPunctuation then (st.addText [d], 1)
      else (st.addText [c], 0)
    | [] => (st.addText [c], 0)
  else if c = '\n' then
    let (pieces, spaces) := dropBlanks st.pieces
    -- two spaces before a line feed make it a hard break
    let line : Span := if 2 ≤ spaces then .hardBreak else .softBreak
    ({ st with pieces := .span line :: pieces }, (t.takeWhile isIndent).length)
  else if c = '`' then
    let more := runLength '`' t
    match codeUpTo? (more + 1) 0 [] 0 (t.drop more) with
    | some (code, count) => (st.addSpan (.code (codeText code)), more + count)
    | none => (st.addText (List.replicate (more + 1) c), more)
  else if c.isIn "*_~" then
    let more := runLength c t
    (st.add (.run (.between before (t.drop more).head? c (more + 1))), more)
  else if c = '!' && t.head? = some '[' then (st.openBracket true (t.drop 1), 1)
  else if c = '[' then (st.openBracket false t, 0)
  else if c = ']' then closeBracket definitions st t
  else if c = '<' then
    match angled? t with
    | some (span, rest) => (st.addSpan span, t.length - rest.length)
    | none => (st.addText [c], 0)
  else (st.addText [c], 0)

/-- Walks over a text, of which `skip` code points are taken already; `before` is the code point in
front of it. -/
def walkInline (definitions : List Definition) (st : InlineState) (before : Option CodePoint)
    (skip : Nat) : Text → InlineState
  | [] => st
  | c :: t =>
    match skip with
    | skip + 1 => walkInline definitions st (some c) skip t
    | 0 =>
      let (st, skip) := takeInline definitions st before c t
      walkInline definitions st (some c) skip t

/-- The spans of a text; blanks at its ends do not count. -/
def Span.ofText (definitions : List Definition) (t : Text) : List Span :=
  resolve (walkInline definitions ⟨[], []⟩ none 0 (Text.trim isGap t)).allPieces

end Wordsmith.Markdown
