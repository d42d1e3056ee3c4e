import Wordsmith.Markdown.EntityTable
import Wordsmith.Text.Punctuation

/-!
# Escapes and character references

A backslash takes its meaning from the punctuation mark after it, and a character reference stands for
the characters that it names or numbers. Both are resolved in addresses, titles and info strings; in
running text references are kept as they are written.
-/

namespace Wordsmith.Markdown

/-- The code point with this number; numbers that stand for no character give the replacement
character. -/
def numbered (n : Nat) : CodePoint :=
  let c := CodePoint.ofNat n
  if n = 0 || c.isSurrogate then '\uFFFD' else c

/-- The digits in front of a semicolon, if there are between one and `most` of them. -/
def digitsBefore? (isDigit : CodePoint → Bool) (most : Nat) (t : Text) : Option (Text × Text) :=
  match t.span isDigit with
  | (digits, c :: rest) =>
    if c = ';' && !digits.isEmpty && digits.length ≤ most then some (digits, rest) else none
  | (_, []) => none

/-- What a character reference stands for, and the text after it; `t` is what follows its ampersand. -/
def reference? (t : Text) : Option (Text × Text) :=
  match t with
  | h :: x :: rest =>
    if h = '#' then
      if x.isIn "xX" then
        (digitsBefore? (·.hexValue?.isSome) 6 rest).map fun (digits, rest) =>
          ([numbered (hexNumber digits)], rest)
      else
        (digitsBefore? CodePoint.isDigit 7 (x :: rest)).map fun (digits, rest) =>
          ([numbered (digits.foldl (fun n c => n * 10 + (c.val - 48)) 0)], rest)
    else
      match (h :: x :: rest).span fun c => c.isLetter || c.isDigit with
      | (name, c :: rest) =>
        if c = ';' then (entities.find? (·.1 = name)).map fun entry => (entry.2, rest) else none
      | (_, []) => none
  | _ => none

/-- Resolves escapes and references, of which `skip` code points are resolved already. -/
def unescapeFrom (skip : Nat) : Text → Text
  | [] => []
  | c :: t =>
    if 0 < skip then unescapeFrom (skip - 1) t
    else if c = '\\' then
      match t with
      | d :: _ =>
        if d.isAsciiPunctuation then d :: unescapeFrom 1 t else c :: unescapeFrom 0 t
      | [] => [c]
    else if c = '&' then
      match reference? t with
      | some (meant, rest) => meant ++ unescapeFrom (t.length - rest.length) t
      | none => c :: unescapeFrom 0 t
    else c :: unescapeFrom 0 t

/-- The text with its escapes and references resolved. -/
def unescape (t : Text) : Text := unescapeFrom 0 t

end Wordsmith.Markdown
