import Wordsmith.File.Fault

/-!
# Files in a folder

A folder with everything below it, and a place in it that paths without a root start from. Every
sequence of names, from the root on, is the way to a `Place`: a folder, a file, a link to another path,
a device, or nothing. A file may stand at several places, so it is known by a number, and its bytes
belong to the number; what has been written to a device is kept in the same way. Paths are followed name
by name, through links as well (`Folder.locate`).

What can be done at a path is decided by what stands there and on the way, and besides by the system,
which may refuse anything for reasons of its own (`Refusals`): a name is too long, a permission is
missing, a disk is full. Work in several steps may be interrupted after some of them, which then have
been done.
-/

namespace Wordsmith

/-- What stands at the end of a way. -/
inductive Place where
  | nothing
  | folder
  /-- The file with this number. -/
  | file (number : Nat)
  /-- A symbolic link. -/
  | link (target : Path)
  /-- The device, pipe or socket with this number. -/
  | device (number : Nat)
deriving DecidableEq

namespace Place

/-- A file with bytes of its own, neither a link to one nor a device. -/
def isFile : Place → Bool
  | .file _ => true
  | _ => false

/-- The number under which the bytes of a file or a device are kept. -/
def number? : Place → Option Nat
  | .file number | .device number => some number
  | _ => none

end Place

/-- Everything that paths can lead to, seen as what stands at each place. -/
structure Folder where
  /-- What stands at the end of these names. -/
  place : List Text → Place
  /-- The bytes in the file with this number, or all that has been written to the device with it. -/
  data : Nat → List UInt8
  /-- The number for the next new file. -/
  next : Nat
  /-- Numbers that are used are below the next one. -/
  numbered : ∀ names number, (place names).number? = some number → number < next
  /-- The names of the folder that paths without a root start from. -/
  start : List Text := []

namespace Folder

/-- There is nothing but the root. -/
def empty : Folder where
  place names := if names = [] then .folder else .nothing
  data _ := []
  next := 0
  numbered := by
    intro names number hnumber
    split at hnumber <;> cases hnumber

/-! ### Following paths -/

/-- How far a way has been followed: to its end, or to a link, from where the rest is to be followed. -/
inductive Walk where
  | arrived (there : List Text)
  | atLink (here rest : List Text)

/-- Follows names from a folder up to their end or to the first link. A name on the way has to be that of
a folder or of a link, and two points lead back; a link at the end is gone through only if `through`
says so. -/
def walk (f : Folder) (through : Bool) (here : List Text) : List Text → Except FileFault Walk
  | [] => .ok (.arrived here)
  | name :: rest =>
    if name.isLiteral ".." then f.walk through here.dropLast rest
    else
      match f.place (here ++ [name]) with
      | .folder => f.walk through (here ++ [name]) rest
      | .link target =>
        if rest.isEmpty && !through then .ok (.arrived (here ++ [name]))
        -- a target without a root starts where its link stands
        else .ok (.atLink (if target.root = 0 then here else []) (target.names ++ rest))
      | .nothing => if rest.isEmpty then .ok (.arrived (here ++ [name])) else .error .missing
      | .file _ | .device _ =>
        if rest.isEmpty then .ok (.arrived (here ++ [name])) else .error .noFolder

/-- Follows names to their end, through fewer links than `links`. -/
def follow (f : Folder) (through : Bool) (here names : List Text) :
    (links : Nat) → Except FileFault (List Text)
  | 0 => .error .linkCycle
  | links + 1 =>
    match f.walk through here names with
    | .error fault => .error fault
    | .ok (.arrived there) => .ok there
    | .ok (.atLink here rest) => f.follow through here rest links

/-- As many links may be on a way. -/
def maxLinks : Nat := 40

/-- The names of the folder that a path starts from. -/
def base (f : Folder) (p : Path) : List Text := if p.root = 0 then f.start else []

/-- The names under which a path ends, if the folder that it starts from is still there. -/
def locate (f : Folder) (through : Bool) (p : Path) : Except FileFault (List Text) :=
  if f.place (f.base p) = .folder then f.follow through (f.base p) p.names (maxLinks + 1)
  else .error .missing

/-- What a path leads to, or the fault on the way. -/
def lookUp (f : Folder) (p : Path) : Except FileFault Place := return f.place (← f.locate true p)

/-- The bytes of the file that a path leads to. -/
def bytes? (f : Folder) (p : Path) : Option (List UInt8) :=
  match f.lookUp p with
  | .ok (.file number) => some (f.data number)
  | _ => none

/-! ### Changes -/

/-- The folder with something else at a place. -/
def withPlace (f : Folder) (there : List Text) (place : Place)
    (hplace : ∀ number, place.number? = some number → number < f.next) : Folder :=
  { f with
    place := fun names => if names = there then place else f.place names
    numbered := by
      intro names number hnumber
      split at hnumber
      · exact hplace number hnumber
      · exact f.numbered names number hnumber }

/-- The folder with other bytes under a number. -/
def rewrite (f : Folder) (number : Nat) (data : List UInt8) : Folder :=
  { f with data := fun n => if n = number then data else f.data n }

/-- The folder with the next number in use for these bytes. -/
def reserve (f : Folder) (data : List UInt8) : Folder :=
  { f.rewrite f.next data with
    next := f.next + 1
    numbered := fun names number hnumber => Nat.lt_succ_of_lt (f.numbered names number hnumber) }

/-- The folder with a new folder at a place. -/
def addFolder (f : Folder) (there : List Text) : Folder := f.withPlace there .folder nofun

/-- The folder with a new file at a place. -/
def addFile (f : Folder) (there : List Text) (data : List UInt8) : Folder :=
  (f.reserve data).withPlace there (.file f.next) fun _ hnumber =>
    Option.some.inj hnumber ▸ Nat.lt_succ_self _

/-- The folder with a new device at a place. -/
def addDevice (f : Folder) (there : List Text) : Folder :=
  (f.reserve []).withPlace there (.device f.next) fun _ hnumber =>
    Option.some.inj hnumber ▸ Nat.lt_succ_self _

/-- The folder after bytes have been written to a place. -/
def put (f : Folder) (there : List Text) (data : List UInt8) : Except FileFault Folder :=
  match f.place there with
  | .nothing => .ok (f.addFile there data)
  | .file number => .ok (f.rewrite number data)
  -- a device cannot be emptied first
  | .device number => .ok (f.rewrite number (f.data number ++ data))
  | .folder => .error .folder
  -- a way that is followed through all links ends at none
  | .link _ => .error .linkCycle

end Folder

/-! ### Actions -/

/-- What a system is asked for at a path. -/
inductive FileAction where
  | look
  | read
  | write
  | makeFolder
deriving DecidableEq

/-- What a system refuses for reasons that do not show in the folder. -/
structure Refusals where
  /-- Why the system refuses an action at a path. -/
  refuses : FileAction → Path → Folder → Option FileFault
  /-- After how many bytes, and why, the system breaks off writing to a path. -/
  breaksOff : Path → Folder → List UInt8 → Option (Nat × FileFault)

/-- The system refuses nothing. -/
def Refusals.none : Refusals where
  refuses _ _ _ := .none
  breaksOff _ _ _ := .none

/-- Work on a folder that could not be finished: why, and the folder as it has been left. -/
structure Interruption where
  error : FileError
  folder : Folder

namespace Folder

variable (r : Refusals)

/-- Looks at what a path leads to. -/
def look (f : Folder) (p : Path) : Except FileFault Place :=
  match r.refuses .look p f with
  | some fault => .error fault
  | none => f.lookUp p

/-- Whether a path leads to a place of some kind. That there is nothing is an answer, any other fault is
none. -/
def leadsTo (kind : Place → Bool) (f : Folder) (p : Path) : Except FileError Bool :=
  match f.look r p with
  | .ok place => .ok (kind place)
  | .error fault => if fault.saysNothingThere then .ok false else .error ⟨fault, p⟩

/-- Whether a path leads to a file, through links as well. -/
def isFile (f : Folder) (p : Path) : Except FileError Bool := f.leadsTo r Place.isFile p

/-- Whether a path leads to a folder, through links as well. -/
def isFolder (f : Folder) (p : Path) : Except FileError Bool := f.leadsTo r (· = .folder) p

/-- The number of bytes in what a path leads to; only files have any. -/
def size (f : Folder) (p : Path) : Except FileError Nat :=
  match f.look r p with
  | .ok (.file number) => .ok (f.data number).length
  | .ok .nothing => .error ⟨.missing, p⟩
  | .ok _ => .ok 0
  | .error fault => .error ⟨fault, p⟩

/-- Reads a file; in a device there is nothing to be read. -/
def read (f : Folder) (p : Path) : Except FileError (List UInt8) :=
  match r.refuses .read p f with
  | some fault => .error ⟨fault, p⟩
  | none =>
    match f.lookUp p with
    | .ok (.file number) => .ok (f.data number)
    | .ok (.device _) => .ok []
    | .ok .folder => .error ⟨.folder, p⟩
    | .ok _ => .error ⟨.missing, p⟩
    | .error fault => .error ⟨fault, p⟩

/-- Writes a file into a folder that is there. Once it has been opened, nothing is left of what was in it
before, whether or not all bytes get there. -/
def write (f : Folder) (p : Path) (data : List UInt8) : Except Interruption Folder :=
  match r.refuses .write p f, f.locate true p with
  | some fault, _ => .error ⟨⟨fault, p⟩, f⟩
  | none, .error fault => .error ⟨⟨fault, p⟩, f⟩
  | none, .ok there =>
    match r.breaksOff p f data with
    | none => (f.put there data).mapError fun fault => ⟨⟨fault, p⟩, f⟩
    | some (count, reason) =>
      match f.put there (data.take count) with
      | .ok f => .error ⟨⟨reason, p⟩, f⟩
      | .error fault => .error ⟨⟨fault, p⟩, f⟩

/-- Makes a folder in one that is there. -/
def makeFolder (f : Folder) (p : Path) : Except FileError Folder :=
  match r.refuses .makeFolder p f, f.locate false p with
  | some fault, _ => .error ⟨fault, p⟩
  | none, .error fault => .error ⟨fault, p⟩
  | none, .ok there => if f.place there = .nothing then .ok (f.addFolder there) else .error ⟨.present, p⟩

/-- Makes a folder in one that is there, unless it is there itself. -/
def ensureFolder (f : Folder) (p : Path) : Except FileError Folder :=
  match f.makeFolder r p with
  | .ok f => .ok f
  | .error e =>
    -- whatever stands in the way of making it, it may be there
    if e.fault.number = FileFault.missing.number then .error e
    else
      match f.isFolder r p with
      | .ok true => .ok f
      | .ok false => .error e
      | .error e' => .error e'

/-- Makes a folder and those on the way to it, unless it is there; `fuel` bounds their number. Folders
that have been made stay when a later one cannot be made. -/
def makeFolders (f : Folder) (p : Path) : (fuel : Nat) → Except Interruption Folder
  | 0 => .ok f
  | fuel + 1 =>
    match f.ensureFolder r p with
    | .ok f => .ok f
    | .error e =>
      -- the folder around it may be what is missing
      if e.fault.number = FileFault.missing.number && p.parent ≠ p then do
        let f ← f.makeFolders p.parent fuel
        (f.ensureFolder r p).mapError fun e => ⟨e, f⟩
      else .error ⟨e, f⟩

/-- Writes a file, and makes the folders on the way to it first. -/
def save (f : Folder) (p : Path) (data : List UInt8) : Except Interruption Folder := do
  (← f.makeFolders r p.parent (p.names.length + 1)).write r p data

end Folder

end Wordsmith
