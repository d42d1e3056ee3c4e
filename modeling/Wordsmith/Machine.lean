import Wordsmith.File.Folder
import Wordsmith.Markdown.Document
import Wordsmith.Text.Decoding
import Wordsmith.Token.Writer

/-!
# The machine

What a conversion takes from outside: the refusals of the system, the encodings that are installed, a
tokenizer for Markdown, and a place to print to. Nothing about them is taken for granted but that
tokens are `Datum.isWellTyped`. The library brings along encodings and a tokenizer of its own
(`Machine.standard`), but what it does with bytes, texts and tokens is the same for all others.
-/

namespace Wordsmith

/-- What a conversion is given from outside. A tokenizer that answers at all answers with a value in
which numbers and texts stand where they are expected; everything else may be as it likes. -/
structure Machine where
  refusals : Refusals
  /-- The text that bytes write in the encoding with a name. -/
  decode : Text → List UInt8 → Except DecodingError Text
  /-- The same for the bytes of a file, of which an encoding may ask more. -/
  decodeFile : Text → List UInt8 → Except DecodingError Text
  /-- The tokens of a Markdown text, or why there are none. -/
  tokenize : Text → Except Text Datum
  isWellTyped_of_tokenize : ∀ t d, tokenize t = .ok d → d.isWellTyped = true
  /-- Why a text cannot be printed after another, if it cannot. -/
  printFault : (before t : Text) → Option Text := fun _ _ => none

/-- The tokens of a Markdown text. -/
def Datum.ofMarkdown (t : Text) : Datum := .list (Node.tokens (Node.ofMarkdown t).children)

namespace Machine

/-- A machine with the encodings and the tokenizer of this library, on a system with these refusals. -/
def refusing (r : Refusals) : Machine where
  refusals := r
  decode name bytes := do (← Encoding.ofName name).decode bytes
  decodeFile name bytes := do (← Encoding.ofName name).decodeFile bytes
  tokenize t := .ok (.ofMarkdown t)
  isWellTyped_of_tokenize := by
    rintro t - ⟨⟩
    rw [Datum.ofMarkdown, Datum.isWellTyped]
    exact Node.areWellTyped_tokens _

/-- The same on a system that refuses nothing. -/
def standard : Machine := refusing .none

/-- Prints texts one after the other, up to the first that cannot be printed: what has been printed then,
and why there is no more. -/
def print (m : Machine) (before : Text) : List Text → Text × Option Text
  | [] => (before, none)
  | t :: ts =>
    match m.printFault before t with
    | some reason => (before, some reason)
    | none => m.print (before ++ t) ts

end Machine

end Wordsmith
