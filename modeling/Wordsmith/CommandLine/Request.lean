import Wordsmith.CommandLine.Option

/-!
# Requests

What a list of arguments asks for. Arguments are taken in order; asking for help or for the version
ends the reading at once, so faults after it do not matter. Only the first word is the input.
-/

namespace Wordsmith.CommandLine

/-- The options of a request, and its input. -/
structure Settings where
  input : Option Text := none
  output : Option Text := none
  style : Text := "default"
  pageSize : Option Text := none
  linkMode : Option Text := none
  encoding : Text := "utf-8"
  listStyles : Bool := false
  verbose : Bool := false

/-- What a run is asked for. A conversion has an input that is not empty. -/
inductive Request where
  | help
  | version
  | listStyles
  | convert (input : Text) (settings : Settings)

/-- Where the reading stands with the input. A divider just before or after it belongs to it. -/
inductive InputTurn where
  | pending
  | afterDivider
  | justTaken
  | past
deriving DecidableEq

/-- What has been read so far. -/
structure Reading where
  settings : Settings := {}
  turn : InputTurn := .pending
  /-- The arguments that nothing takes, last one first. -/
  surplus : List Text := []

/-- Goes on reading, or ends it with a request. -/
inductive Step where
  | goOn (settings : Settings)
  | done (r : Request)

/-- Takes an option without a value. -/
def Settings.switch (s : Settings) : Opt → Step
  | .help => .done .help
  | .version => .done .version
  | .listStyles => .goOn { s with listStyles := true }
  | .verbose => .goOn { s with verbose := true }
  | _ => .goOn s

/-- Takes an option with its value. A value that is given again replaces the one before. -/
def Settings.set (s : Settings) (o : Opt) (value : Text) : Except ArgumentError Settings :=
  if (o.choices.map fun choices => !choices.contains value).getD false then
    .error (.invalidChoice o value)
  else
    match o with
    | .output => .ok { s with output := some value }
    | .style => .ok { s with style := value }
    | .pageSize => .ok { s with pageSize := some value }
    | .linkMode => .ok { s with linkMode := some value }
    | .encoding => .ok { s with encoding := value }
    | _ => .ok s

/-- What ends a cluster of short options. -/
inductive ClusterEnd where
  | nothing
  /-- An option that takes a value, and the value if it stands there. -/
  | option (o : Opt) (value : Option Text)
  /-- A letter that is no option, with what follows. -/
  | unknown (t : Text)

/-- What one argument with an option asks for: switches, and what follows the last of them. -/
structure Cluster where
  switches : List Opt
  last : ClusterEnd

/-- An option that stands alone. -/
def Cluster.ofOption (o : Opt) : Cluster :=
  if o.takesValue then ⟨[], .option o none⟩ else ⟨[o], .nothing⟩

/-- An option with its value; one that takes none refuses it. -/
def Cluster.ofValue (o : Opt) (value : Text) : Except ArgumentError Cluster :=
  if o.takesValue then .ok ⟨[], .option o (some value)⟩ else .error (.surplusValue o value)

/-- An option with letters right behind its short spelling, all of which are its value if it takes one.
Otherwise the first of them is an option again, and an equals sign behind that ends the cluster. -/
def Cluster.ofLetters (o : Opt) : (letters : Text) → Except ArgumentError Cluster
  | [] => .ok (Cluster.ofOption o)
  | c :: letters =>
    if o.takesValue then .ok ⟨[], .option o (some (c :: letters))⟩
    else if c = '-' then .error (.surplusValue o (c :: letters))
    else
      match Opt.ofSpelling ['-', c] with
      | none => .ok ⟨[o], .unknown ('-' :: c :: letters)⟩
      | some next => do
        let rest ←
          if letters.head? = some ('=' : CodePoint) then Cluster.ofValue next letters.tail
          else Cluster.ofLetters next letters
        return { rest with switches := o :: rest.switches }

/-- An option with what stands right behind its spelling. -/
def Cluster.ofBehind (o : Opt) : Behind → Except ArgumentError Cluster
  | .nothing => .ok (.ofOption o)
  | .value value => Cluster.ofValue o value
  | .letters letters => Cluster.ofLetters o letters

/-- Takes switches one by one, up to one that ends the reading. -/
def Settings.switchAll (s : Settings) : List Opt → Step
  | [] => .goOn s
  | o :: os =>
    match s.switch o with
    | .goOn s => s.switchAll os
    | .done r => .done r

/-- What has been asked for when all arguments are read. Arguments that are left
over are refused first, and a list of styles needs no input. -/
def Reading.finish (r : Reading) : Except ArgumentError Request :=
  if r.surplus.isEmpty then
    if r.settings.listStyles then .ok .listStyles
    else
      match r.settings.input with
      | some (c :: t) => .ok (.convert (c :: t) r.settings)
      | _ => .error .noInput
  else .error (.unrecognized r.surplus.reverse)

namespace Reading

/-- Puts an argument with those that nothing takes. -/
def leave (r : Reading) (t : Text) : Reading := { r with turn := .past, surplus := t :: r.surplus }

/-- Takes a word, which is the input if that is still to come. -/
def word (r : Reading) (t : Text) : Reading :=
  let taken (turn : InputTurn) : Reading :=
    { r with settings := { r.settings with input := some t }, turn }
  match r.turn with
  | .pending => taken .justTaken
  | .afterDivider => taken .past
  | .justTaken | .past => r.leave t

/-- Takes a divider, which is left over unless it stands just before or just after the input. -/
def divide (r : Reading) : Reading :=
  match r.turn with
  | .pending => { r with turn := .afterDivider }
  | .justTaken => { r with turn := .past }
  | .afterDivider | .past => r.leave "--"

/-- The turn of the input after an option. -/
def afterOption (r : Reading) : InputTurn := if r.turn = .justTaken then .past else r.turn

/-- Takes switches, and then an option with its value if there is one. -/
def options (r : Reading) (os : List Opt) (last : Option (Opt × Text)) :
    Except ArgumentError (Reading ⊕ Request) :=
  match r.settings.switchAll os with
  | .done request => .ok (.inr request)
  | .goOn settings => do
    let settings ←
      match last with
      | some (o, value) => settings.set o value
      | none => pure settings
    return .inl { r with settings, turn := r.afterOption }

/-- Passes over what no option is spelled like. -/
def passOver (r : Reading) (t : Text) : Reading :=
  { r with turn := r.afterOption, surplus := t :: r.surplus }

/-- Takes the arguments one after the other, up to a fault or to an option that ends the reading. -/
def take (r : Reading) : List Argument → Except ArgumentError Request
  | [] => r.finish
  | .word t :: rest => (r.word t).take rest
  | .divider :: rest => r.divide.take rest
  | .unknown t :: rest => (r.passOver t).take rest
  | .option o behind :: rest =>
    match Cluster.ofBehind o behind, rest with
    | .error e, _ => .error e
    | .ok ⟨os, .nothing⟩, rest => (r.options os none).bind (Sum.elim (·.take rest) .ok)
    | .ok ⟨os, .unknown t⟩, rest =>
      (r.options os none).bind (Sum.elim (fun r => (r.passOver t).take rest) .ok)
    | .ok ⟨os, .option last (some value)⟩, rest =>
      (r.options os (some (last, value))).bind (Sum.elim (·.take rest) .ok)
    -- the value of an option that ends its argument is the next word
    | .ok ⟨os, .option last none⟩, .word value :: rest =>
      (r.options os (some (last, value))).bind (Sum.elim (·.take rest) .ok)
    | .ok ⟨_, .option last none⟩, _ => .error (.missingValue last)

end Reading

/-- What a list of arguments asks for. -/
def Request.ofArguments (arguments : List Text) : Except ArgumentError Request := do
  Reading.take {} (← Argument.ofTexts arguments)

end Wordsmith.CommandLine
