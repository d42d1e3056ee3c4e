import Wordsmith.Style.Name
import Wordsmith.Text.Digit

/-!
# Options of the command line

Every option has one or two spellings; some take a value, and of those some take one of a list. A long
spelling may be cut short as long as only one option starts so; a short one may have its value, or
another short option, right behind it. A value may also stand behind an equals sign.
-/

namespace Wordsmith.CommandLine

/-- The options, each once, however it is spelled. -/
inductive Opt where
  | help
  | output
  | style
  | pageSize
  | linkMode
  | encoding
  | listStyles
  | verbose
  | version
deriving DecidableEq, Repr

namespace Opt

/-- All spellings with their options, in the order in which they are searched. -/
def spellings : List (String × Opt) :=
  [("-h", .help), ("--help", .help), ("-o", .output), ("--output", .output), ("-s", .style),
   ("--style", .style), ("--page-size", .pageSize), ("--link-mode", .linkMode), ("-e", .encoding),
   ("--encoding", .encoding), ("--list-styles", .listStyles), ("-v", .verbose),
   ("--verbose", .verbose), ("--version", .version)]

/-- All spellings of an option, as they show in messages. -/
def title (o : Opt) : Text :=
  Text.join "/" ((spellings.filter (·.2 = o)).map fun entry => Text.ofString entry.1)

/-- The option has to be followed by a value; all others refuse one. -/
def takesValue : Opt → Bool
  | .output | .style | .pageSize | .linkMode | .encoding => true
  | _ => false

/-- The values to choose from; absent if every value will do. -/
def choices : Opt → Option (List Text)
  | .style => some (Preset.names.map fun entry => Text.ofString entry.1)
  | .pageSize => some (Paper.names.map fun entry => Text.ofString entry.1)
  | .linkMode => some (LinkMode.names.map fun entry => Text.ofString entry.1)
  | _ => none

/-- The option that is spelled so. -/
def ofSpelling (t : Text) : Option Opt := lookup? spellings t

end Opt

/-- Why arguments are refused. -/
inductive ArgumentError where
  /-- A cut spelling belongs to several options. -/
  | ambiguous (given : Text) (candidates : List Text)
  /-- An option is not followed by its value. -/
  | missingValue (o : Opt)
  /-- An option has a value behind it that it does not take. -/
  | surplusValue (o : Opt) (value : Text)
  /-- A value is not one of those to choose from. -/
  | invalidChoice (o : Opt) (value : Text)
  /-- Arguments are left over. -/
  | unrecognized (arguments : List Text)
  /-- There is no input. -/
  | noInput
deriving DecidableEq

/-- The wording of a refusal. It shows an option with all its spellings and a value in quotes. -/
def ArgumentError.message : ArgumentError → Text
  | .ambiguous given candidates =>
    "ambiguous option: " ++ given ++ " could match " ++ Text.join ", " candidates
  | .missingValue o => "argument " ++ o.title ++ ": expected one argument"
  | .surplusValue o value =>
    "argument " ++ o.title ++ ": ignored explicit argument " ++ value.quoted
  | .invalidChoice o value =>
    "argument " ++ o.title ++ ": invalid choice: " ++ value.quoted ++ " (choose from " ++
      Text.join ", " ((o.choices.getD []).map Text.quoted) ++ ")"
  | .unrecognized arguments => "unrecognized arguments: " ++ Text.join " " arguments
  | .noInput => "the following argument is required: input"

/-! ### Reading one argument -/

/-- What stands right behind the spelling of an option. -/
inductive Behind where
  | nothing
  /-- A value, behind an equals sign. -/
  | value (t : Text)
  /-- Letters, behind a short spelling: a value, or further options. -/
  | letters (t : Text)

/-- What one argument is, read without those before it. -/
inductive Argument where
  /-- A word: the input, or the value of an option. -/
  | word (t : Text)
  /-- The two hyphens after which there are only words. -/
  | divider
  | option (o : Opt) (behind : Behind)
  /-- A spelling of no option. -/
  | unknown (t : Text)

namespace Argument

/-- Two hyphens start the spelling. -/
def isLong (t : Text) : Bool := Text.startsWith "--" t

/-- A text up to its first equals sign, and what stands behind that. -/
def splitValue (t : Text) : Text × Behind :=
  match Text.splitFirst? '=' t with
  | some (start, value) => (start, .value value)
  | none => (t, .nothing)

/-- The spellings that an argument may be meant to be, and what stands behind them. -/
def candidates (t : Text) : List (Text × Argument) :=
  if isLong t then
    let (start, behind) := splitValue t
    -- a long spelling may be cut
    (Opt.spellings.filter fun entry => Text.startsWith start entry.1).map fun (spelling, o) =>
      (spelling, .option o behind)
  else
    -- behind a short one stand further letters, or a value
    (Opt.spellings.filter fun entry => Text.isLiteral entry.1 (t.take 2)).map fun (spelling, o) =>
      (spelling, .option o (.letters (t.drop 2)))

/-- The text without a line feed at its end. -/
def withoutLineEnd (t : Text) : Text :=
  if t.getLast? = some ('\n' : CodePoint) then t.dropLast else t

/-- A negative number: decimal digits with at most one point, which digits follow. -/
def isNegativeNumber (t : Text) : Bool :=
  match withoutLineEnd t with
  | [] => false
  | c :: t =>
    if c = '-' then
      match Text.splitFirst? '.' t with
      | some (whole, fraction) =>
        whole.all CodePoint.isDecimal && !fraction.isEmpty && fraction.all CodePoint.isDecimal
      | none => !t.isEmpty && t.all CodePoint.isDecimal
    else false

/-- The argument that a text is. -/
def ofText (t : Text) : Except ArgumentError Argument :=
  if t.head? ≠ some '-' || t.length = 1 then .ok (.word t)
  else
    -- a spelling of its own comes before one that is cut
    match Opt.ofSpelling t with
    | some o => .ok (.option o .nothing)
    | none =>
      let (start, behind) := splitValue t
      match Opt.ofSpelling start, candidates t with
      | some o, _ => .ok (.option o behind)
      | none, [(_, a)] => .ok a
      -- what no option is spelled like may still be a word
      | none, [] => .ok (if isNegativeNumber t || t.any (· = ' ') then .word t else .unknown t)
      | none, several => .error (.ambiguous t (several.map (·.1)))

/-- The arguments that texts are, in order. The first fault that is met ends the reading. -/
def ofTexts : List Text → Except ArgumentError (List Argument)
  | [] => .ok []
  | t :: ts =>
    -- behind a divider there are only words
    if t.isLiteral "--" then .ok (.divider :: ts.map .word)
    else return (← ofText t) :: (← ofTexts ts)

end Argument

end Wordsmith.CommandLine
