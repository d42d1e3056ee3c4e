import Wordsmith.Number.Shortest
import Wordsmith.Text.Quoted

/-!
# Token data

Tokens come from a tokenizer as loosely typed records: which fields there are, and what is in them,
is not checked before they are read. `Datum` is such a value.
-/

namespace Wordsmith

/-- A loosely typed value. -/
inductive Datum where
  | absent
  | flag (b : Bool)
  | whole (n : Int)
  | real (x : Binary64)
  | text (t : Text)
  | list (items : List Datum)
  | record (fields : List (Text × Datum))

namespace Datum

/-- Whether a value counts as present: it is not absent, false, zero or empty. -/
def isTruthy : Datum → Bool
  | .absent => false
  | .flag b => b
  | .whole n => n ≠ 0
  | .real (.finite _ m _) => m ≠ 0
  | .real _ => true
  | .text t => !t.isEmpty
  | .list items => !items.isEmpty
  | .record fields => !fields.isEmpty

/-- The value of the field `name` in a list of fields. -/
def field? (name : String) : List (Text × Datum) → Option Datum
  | [] => none
  | (key, value) :: fields => if key.isLiteral name then some value else field? name fields

mutual

/-- The value as it shows inside another one: texts are quoted. -/
def display : Datum → Text
  | .absent => "None"
  | .flag true => "True"
  | .flag false => "False"
  | .whole n => .ofInt n
  | .real x => x.shortest
  | .text t => t.quoted
  | .list items => "[" ++ displayAll items ++ "]"
  | .record fields => "\x7b" ++ displayFields fields ++ "\x7d"

def displayAll : List Datum → Text
  | [] => []
  | [d] => d.display
  | d :: ds => d.display ++ ", " ++ displayAll ds

def displayFields : List (Text × Datum) → Text
  | [] => []
  | [(key, d)] => key.quoted ++ ": " ++ d.display
  | (key, d) :: fields => key.quoted ++ ": " ++ d.display ++ ", " ++ displayFields fields

end

/-- The value as a text: a text is itself, anything else as it shows. -/
def toText : Datum → Text
  | .text t => t
  | d => d.display

end Datum

end Wordsmith
