import Wordsmith.Markdown.Line

/-!
# Raw HTML

Inside a line, a tag, a comment, an instruction, a declaration or a character data section is taken as
raw HTML. A line that starts with certain tags, or with one of the others, starts a block of it
(`HtmlEnd.ofStart?`), which lasts up to a mark or to a blank line.
-/

namespace Wordsmith.Markdown

/-- Control characters and the space part the attributes of a tag. -/
def isTagGap (c : CodePoint) : Bool := c.isIn " \t\n\r\x0b\x0c"

/-- Code points that stand in the name of a tag. -/
def continuesTag (c : CodePoint) : Bool := c.isLetter || c.isDigit || c = '-'

/-- Where a reader stands in a tag. -/
inductive TagState where
  | inName
  | gap
  | inAttribute
  | afterAttribute
  | beforeValue
  | inValue
  | inQuotes (mark : CodePoint)
  | afterQuotes
  | slash

namespace TagState

/-- Code points that the name of an attribute starts with. -/
def startsAttribute (c : CodePoint) : Bool := c.isLetter || c.isIn "_:"

/-- Code points that stand in the name of an attribute. -/
def continuesAttribute (c : CodePoint) : Bool := startsAttribute c || c.isDigit || c.isIn ".-"

/-- Code points that stand in a value without quotes. -/
def isValue (c : CodePoint) : Bool := 0x20 < c.val && !c.isIn "\"'=<>`"

/-- What one code point does inside a tag; absent if it may not stand there. The closing bracket is not
among them. -/
def step (s : TagState) (c : CodePoint) : Option TagState :=
  match s with
  | .inName =>
    if continuesTag c then some .inName
    else if isTagGap c then some .gap
    else if c = '/' then some .slash
    else none
  | .gap =>
    if isTagGap c then some .gap
    else if c = '/' then some .slash
    else if startsAttribute c then some .inAttribute
    else none
  | .inAttribute =>
    if continuesAttribute c then some .inAttribute
    else if isTagGap c then some .afterAttribute
    else if c = '=' then some .beforeValue
    else if c = '/' then some .slash
    else none
  | .afterAttribute =>
    if isTagGap c then some .afterAttribute
    else if c = '=' then some .beforeValue
    else if c = '/' then some .slash
    else if startsAttribute c then some .inAttribute
    else none
  | .beforeValue =>
    if isTagGap c then some .beforeValue
    else if c.isIn "\"'" then some (.inQuotes c)
    else if isValue c then some .inValue
    else none
  | .inValue =>
    if isValue c then some .inValue else if isTagGap c then some .gap else none
  -- quotes take any code point up to the closing one
  | .inQuotes mark => some (if c = mark then .afterQuotes else .inQuotes mark)
  | .afterQuotes =>
    if isTagGap c then some .gap else if c = '/' then some .slash else none
  -- a slash ends the tag
  | .slash => none

/-- A closing bracket ends the tag here. -/
def mayClose : TagState → Bool
  | .beforeValue | .inQuotes _ => false
  | _ => true

end TagState

/-- What follows a tag whose reader stands here. -/
def afterTag? (s : TagState) : Text → Option Text
  | [] => none
  | c :: t => if c = '>' && s.mayClose then some t else (s.step c).bind (afterTag? · t)

/-- What follows an opening tag; `t` is what follows its bracket. -/
def afterOpeningTag? (t : Text) : Option Text :=
  match t with
  | c :: t => if c.isLetter then afterTag? .inName t else none
  | [] => none

/-- What follows a closing tag; `t` is what follows its bracket and slash. -/
def afterClosingTag? (t : Text) : Option Text :=
  match t with
  | c :: t =>
    if c.isLetter then
      match (t.dropWhile continuesTag).dropWhile isTagGap with
      | d :: rest => if d = '>' then some rest else none
      | [] => none
    else none
  | [] => none

/-- What follows the first occurrence of a mark. -/
def after? (mark : Text) : Text → Option Text
  | [] => if mark.isEmpty then some [] else none
  | c :: t => (Text.dropLead? mark (c :: t)).or (after? mark t)

/-- What follows a comment; `t` is what follows its first four code points. -/
def afterComment? (t : Text) : Option Text :=
  (Text.dropLead? ">" t).or ((Text.dropLead? "->" t).or (after? "-->" t))

/-- What follows raw HTML inside a line; `t` is what follows its opening bracket. -/
def afterHtml? (t : Text) : Option Text :=
  match t with
  | [] => none
  | c :: rest =>
    if c = '/' then afterClosingTag? rest
    else if c = '?' then after? "?>" rest
    else if c = '!' then
      match Text.dropLead? "--" rest, Text.dropLead? "[CDATA[" rest, rest with
      | some rest, _, _ => afterComment? rest
      | _, some rest, _ => after? "]]>" rest
      | _, _, d :: rest => if d.isLetter then after? ">" rest else none
      | _, _, [] => none
    else afterOpeningTag? t

/-! ### Blocks -/

/-- What ends a block of HTML: the first line with one of some marks in it, or a blank line, which does
not belong to it. -/
inductive HtmlEnd where
  | marks (marks : List Text)
  | blankLine

/-- The tags whose content is raw up to a closing tag. -/
def rawTags : List String := ["script", "pre", "textarea", "style"]

def blockTags : List String :=
  ["address", "article", "aside", "base", "basefont", "blockquote", "body", "caption", "center",
   "col", "colgroup", "dd", "details", "dialog", "dir", "div", "dl", "dt", "fieldset", "figcaption",
   "figure", "footer", "form", "frame", "frameset", "h1", "h2", "h3", "h4", "h5", "h6", "head",
   "header", "hr", "html", "iframe", "legend", "li", "link", "main", "menu", "menuitem", "nav",
   "noframes", "ol", "optgroup", "option", "p", "param", "search", "section", "summary", "table",
   "tbody", "td", "tfoot", "th", "thead", "title", "tr", "track", "ul"]

namespace HtmlEnd

/-- The line, whose capital letters count as small ones, ends the block and belongs to it. -/
def isIn (line : Text) : HtmlEnd → Bool
  | .marks closing => closing.any (Text.contains · line.toLower)
  | .blankLine => false

/-- The name of a tag, and what follows it. -/
def tagName (t : Text) : Text × Text := t.toLower.span fun c => c.isLetter || c.isDigit

/-- What ends a block that starts with a tag; `t` is what follows its bracket. -/
def ofTag? (continuing : Bool) (t : Text) : Option HtmlEnd :=
  let closing := Text.startsWith "/" t
  let (name, rest) := tagName (if closing then t.drop 1 else t)
  let ends : Bool := rest.head?.all fun c => isTagGap c || c = '>'
  if !closing && ends && rawTags.any name.isLiteral then
    some (.marks (rawTags.map fun tag => "</" ++ Text.ofString tag ++ ">"))
  else if (ends || Text.startsWith "/>" rest) && blockTags.any name.isLiteral then some .blankLine
  -- a tag that is not listed has to stand alone, and does not break a paragraph
  else if continuing then none
  else
    match if closing then afterClosingTag? (t.drop 1) else afterOpeningTag? t with
    | some rest => if rest.all isTagGap then some .blankLine else none
    | none => none

/-- What ends a block of HTML that a line starts; absent if it starts none. `continuing` says that the
line could continue a paragraph. -/
def ofStart? (continuing : Bool) (line : Text) : Option HtmlEnd :=
  match line with
  | c :: d :: rest =>
    if c ≠ '<' then none
    else if d = '?' then some (.marks ["?>"])
    else if d = '!' then
      if Text.startsWith "--" rest then some (.marks ["-->"])
      else if Text.startsWith "[CDATA[" rest then some (.marks ["]]>"])
      else if rest.head?.any CodePoint.isLetter then some (.marks [">"])
      else none
    else ofTag? continuing (d :: rest)
  | _ => none

end HtmlEnd

end Wordsmith.Markdown
