import Wordsmith.Text.Hex
import Wordsmith.Token.Datum

/-!
# Token data as JSON

The interchange form of `Datum`. `Datum.ofJson?` reads it in two passes: lexemes first, then the nesting
on a stack of open lists and records. `Datum.toJson` writes it in ASCII, so that any encoding can carry
it. A surrogate that stands alone is carried as the escape of its number.
-/

namespace Wordsmith

namespace Json

inductive Lexeme where
  | openList
  | closeList
  | openRecord
  | closeRecord
  | comma
  | colon
  | value (d : Datum)

/-- The number that decimal digits write; other code points count as the digit zero. -/
def ofDigits (t : Text) : Nat :=
  t.foldl (fun n c => n * 10 + (if c.isDigit then c.val - 48 else 0)) 0

/-- A sign in front of a number: whether it is a minus, and what follows it. -/
def splitSign : Text → Bool × Text
  | [] => (false, [])
  | c :: cs => if c = '-' then (true, cs) else if c = '+' then (false, cs) else (false, c :: cs)

/-- The floating point number `digits * 10 ^ exponent`. Where the decimal point is more than 400 places
off the digits, the number is zero or infinite. -/
def realNumber (negative : Bool) (digits : Text) (exponent : Int) : Binary64 :=
  let mantissa := ofDigits digits
  let places := exponent + digits.length
  if mantissa = 0 || places < -400 then .finite negative 0 Binary64.minExponent
  else if 400 < places then .infinite negative
  else .ofDecimal negative mantissa exponent

/-- The number that a word writes: an integer, unless there is a point or an exponent in it. -/
def number (word : Text) : Datum :=
  let (negative, digits) := splitSign word
  let (digits, exponent?) :=
    match digits.span fun c => !c.isIn "eE" with
    | (digits, _ :: exponent) => (digits, some exponent)
    | (digits, []) => (digits, none)
  let (whole, fraction?) :=
    match Text.splitFirst? '.' digits with
    | some (whole, fraction) => (whole, some fraction)
    | none => (digits, none)
  if exponent?.isNone && fraction?.isNone then
    .whole (if negative then -(ofDigits whole : Int) else ofDigits whole)
  else
    let fraction := fraction?.getD []
    let (below, exponent) := splitSign (exponent?.getD [])
    let exponent : Int := if below then -(ofDigits exponent : Int) else ofDigits exponent
    .real (realNumber negative (whole ++ fraction) (exponent - fraction.length))

/-- The value that a bare word writes. -/
def word (t : Text) : Datum :=
  if t.isLiteral "true" then .flag true
  else if t.isLiteral "false" then .flag false
  else if t.isLiteral "null" then .absent
  else number t

/-- The code point that an escape of one letter stands for. -/
def unescape (c : CodePoint) : CodePoint :=
  if c = 'n' then '\n'
  else if c = 't' then '\t'
  else if c = 'r' then '\r'
  else if c = 'b' then '\x08'
  else if c = 'f' then '\x0c'
  else c

/-- Puts a code point after a text that is given last code point first. -/
def push (done : Text) (c : CodePoint) : Text :=
  match done with
  | [] => [c]
  | h :: rest =>
    -- a high surrogate and the low one after it become one code point
    if 0xD800 ≤ h.val && h.val < 0xDC00 && 0xDC00 ≤ c.val && c.val < 0xE000 then
      .ofNat (0x10000 + (h.val - 0xD800) * 0x400 + (c.val - 0xDC00)) :: rest
    else c :: done

/-- Where the reader stands. What has been read of a text or a word is held last code point first. -/
inductive State where
  | between
  | inWord (done : Text)
  | inText (done : Text)
  | escaped (done : Text)
  /-- In the number of a code point, of which `missing` digits are still to come. -/
  | numbered (done : Text) (missing n : Nat)

/-- The lexemes that a code point between words adds, and where the reader stands after it. -/
def start (done : List Lexeme) (c : CodePoint) : State × List Lexeme :=
  if c = '"' then (.inText [], done)
  else if c.isIn " \n\r\t" then (.between, done)
  else if c = '[' then (.between, .openList :: done)
  else if c = ']' then (.between, .closeList :: done)
  else if c = '\x7b' then (.between, .openRecord :: done)
  else if c = '\x7d' then (.between, .closeRecord :: done)
  else if c = ',' then (.between, .comma :: done)
  else if c = ':' then (.between, .colon :: done)
  else (.inWord [c], done)

def step (state : State) (done : List Lexeme) (c : CodePoint) : State × List Lexeme :=
  match state with
  | .between => start done c
  | .inWord t =>
    if c.isLetter || c.isDigit || c.isIn "+-." then (.inWord (c :: t), done)
    else start (.value (word t.reverse) :: done) c
  | .inText t =>
    if c = '"' then (.between, .value (.text t.reverse) :: done)
    else if c = '\\' then (.escaped t, done)
    else (.inText (push t c), done)
  | .escaped t => if c = 'u' then (.numbered t 4 0, done) else (.inText (push t (unescape c)), done)
  | .numbered t missing n =>
    let n := n * 16 + (c.hexValue?).getD 0
    if missing ≤ 1 then (.inText (push t (.ofNat n)), done) else (.numbered t (missing - 1) n, done)

/-- The lexemes of a text, absent if it ends inside a quoted text. -/
def lexemes (t : Text) : Option (List Lexeme) :=
  match t.foldl (fun (state, done) c => step state done c) (State.between, []) with
  | (.between, done) => some done.reverse
  | (.inWord t, done) => some (Lexeme.value (word t.reverse) :: done).reverse
  | _ => none

/-- A list or record that is still open, with what is in it so far, last item first; a record may wait
for the value of a field. -/
inductive Frame where
  | list (done : List Datum)
  | record (done : List (Text × Datum)) (name : Option Text)

/-- The value that lexemes write inside open lists and records; `pending` is a value that nothing has
been done with yet. -/
def build (outer : List Frame) (pending : Option Datum) : List Lexeme → Option Datum
  | [] => if outer.isEmpty then pending else none
  | .value d :: rest => if pending.isNone then build outer (some d) rest else none
  | .openList :: rest => if pending.isNone then build (.list [] :: outer) none rest else none
  | .openRecord :: rest =>
    if pending.isNone then build (.record [] none :: outer) none rest else none
  | .comma :: rest =>
    match outer, pending with
    | .list done :: outer, some d => build (.list (d :: done) :: outer) none rest
    | .record done (some name) :: outer, some d =>
      build (.record ((name, d) :: done) none :: outer) none rest
    | _, _ => none
  | .colon :: rest =>
    match outer, pending with
    | .record done none :: outer, some (.text name) =>
      build (.record done (some name) :: outer) none rest
    | _, _ => none
  | .closeList :: rest =>
    match outer with
    -- a comma before the closing bracket is passed over
    | .list done :: outer => build outer (some (.list (pending.toList ++ done).reverse)) rest
    | _ => none
  | .closeRecord :: rest =>
    match outer, pending with
    | .record done (some name) :: outer, some d =>
      build outer (some (.record ((name, d) :: done).reverse)) rest
    | .record done none :: outer, none => build outer (some (.record done.reverse)) rest
    | _, _ => none

/-- A code point of a text, escaped if it is not printable ASCII or has a meaning. -/
def escape (c : CodePoint) : Text :=
  let unit (n : Nat) : Text := "\\u" ++ Text.hex true 4 n
  if c.isIn "\"\\" then ['\\', c]
  else if 0x20 ≤ c.val && c.val < 0x7F then [c]
  else if c.val < 0x10000 then unit c.val
  else unit (0xD800 + (c.val - 0x10000) / 0x400) ++ unit (0xDC00 + (c.val - 0x10000) % 0x400)

/-- A quoted text in front of `rest`. -/
def writeText (t rest : Text) : Text :=
  let closed : Text := '"' :: rest
  '"' :: (t.flatMap escape ++ closed)

end Json

namespace Datum

/-- The value that a JSON text writes, absent if it writes none. -/
def ofJson? (t : Text) : Option Datum := (Json.lexemes t).bind (Json.build [] none)

mutual

/-- The value as JSON in front of `rest`. -/
def writeJson (rest : Text) : Datum → Text
  | .absent => "null" ++ rest
  | .flag true => "true" ++ rest
  | .flag false => "false" ++ rest
  | .whole n => Text.ofInt n ++ rest
  | .real x => x.shortest ++ rest
  | .text t => Json.writeText t rest
  | .list items => '[' :: writeItems rest items
  | .record fields => '\x7b' :: writeFields rest fields

/-- The items of a list, closed, in front of `rest`. -/
def writeItems (rest : Text) : List Datum → Text
  | [] => ']' :: rest
  | [d] => d.writeJson (']' :: rest)
  | d :: ds => d.writeJson (',' :: writeItems rest ds)

/-- The fields of a record, closed, in front of `rest`. -/
def writeFields (rest : Text) : List (Text × Datum) → Text
  | [] => '\x7d' :: rest
  | [(name, d)] => Json.writeText name (':' :: d.writeJson ('\x7d' :: rest))
  | (name, d) :: fields => Json.writeText name (':' :: d.writeJson (',' :: writeFields rest fields))

end

def toJson (d : Datum) : Text := d.writeJson []

end Datum

end Wordsmith
