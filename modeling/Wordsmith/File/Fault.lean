import Wordsmith.File.Path
import Wordsmith.Text.Quoted

/-!
# Faults of files

What stands in the way of looking at a file, reading it or writing it. A fault has a number among those
of the system and a reason in words, and a `FileError` tells the path that it was met on besides. Only
the faults that the library itself tells apart have names here.
-/

namespace Wordsmith

/-- What stands in the way of a file action. -/
inductive FileFault where
  | missing
  | present
  | noFolder
  | folder
  /-- The links on the way lead on and on. -/
  | linkCycle
  /-- Any other fault of the system: its number, and its reason. -/
  | other (number : Nat) (reason : Text)
deriving DecidableEq

/-- A fault, and the path on which it was met. -/
structure FileError where
  fault : FileFault
  path : Path
deriving DecidableEq

namespace FileFault

/-- The number of the fault among those of the system. -/
def number : FileFault → Nat
  | .missing => 2
  | .present => 17
  | .noFolder => 20
  | .folder => 21
  | .linkCycle => 40
  | .other number _ => number

/-- The reason as the system words it. -/
def reason : FileFault → Text
  | .missing => "No such file or directory"
  | .present => "File exists"
  | .noFolder => "Not a directory"
  | .folder => "Is a directory"
  | .linkCycle => "Too many levels of symbolic links"
  | .other _ reason => reason

/-- The fault says that there is nothing at the end of a path: something on the way is missing, is no
folder, is a bad handle (9) or leads in a circle. -/
def saysNothingThere (fault : FileFault) : Bool := [2, 9, 20, 40].contains fault.number

end FileFault

/-- The wording of an error: the number, the reason, and the path in quotes. -/
def FileError.message (e : FileError) : Text :=
  "[Errno " ++ Text.ofNat e.fault.number ++ "] " ++ e.fault.reason ++ ": " ++ e.path.toText.quoted

end Wordsmith
