import Wordsmith.CommandLine.Run

/-!
# The program

Puts what a run may come across into a `Folder`, runs, and stores what the run has left there.
-/

namespace Wordsmith

/-- A text for the system; a text that the system cannot hold is empty. -/
def Text.toSystem (t : Text) : String := t.toString?.getD ""

/-- The place that names lead to from the root. -/
def rooted (names : List Text) : String := "/" ++ (Text.join "/" names).toSystem

namespace Folder

/-- Puts what stands at a place into a folder; the way to it has no links. -/
def load (f : Folder) (there : List Text) : IO Folder := do
  let place := (← IO.currentDir) / rooted there
  unless f.place there = .nothing && (← place.pathExists) do return f
  match (← place.metadata).type with
  | .dir => return f.addFolder there
  | .file => return f.addFile there (← IO.FS.readBinFile place).toList
  | _ => return f.addDevice there

/-- Puts all that stands on a way without links into a folder. -/
def loadWay (f : Folder) (there : List Text) : IO Folder := do
  let mut f := f
  for count in List.range (there.length + 1) do
    f ← f.load (there.take count)
  return f

/-- Where the paths that a path begins with end. -/
def stations (f : Folder) (p : Path) : List (List Text) :=
  (List.range (p.names.length + 1)).filterMap fun count =>
    (f.locate true { p with names := p.names.take count }).toOption

/-- Puts what stands on the way to a path, and at its end, into a folder. A link is stored with the path
that it leads to in the end. -/
def loadPath (f : Folder) (p : Path) : IO Folder := do
  let mut f ← f.loadWay (if p.root = 0 then f.start else [])
  for count in List.range p.names.length do
    let some there := (f.stations { p with names := p.names.take (count + 1) })[count + 1]? | return f
    let place := (← IO.currentDir) / rooted there
    if ← place.pathExists then
      let real := Path.ofText (Text.ofString (← IO.FS.realPath place).toString)
      if real.names ≠ there then
        f := f.withPlace there (.link real) nofun
      f ← f.loadWay real.names
  return f

/-- Stores what `after` has at a place and `before` has not. -/
def storeSince (after before : Folder) (there : List Text) : IO Unit := do
  match after.place there with
  | .folder => if before.place there = .nothing then IO.FS.createDir (rooted there)
  | .file number =>
    unless before.place there = .file number && before.data number = after.data number do
      IO.FS.writeBinFile (rooted there) ⟨(after.data number).toArray⟩
  | .device number =>
    let new := (after.data number).drop (before.data number).length
    unless new.isEmpty do IO.FS.writeBinFile (rooted there) ⟨new.toArray⟩
  | .nothing | .link _ => return

end Folder

/-- The standard machine, with a system that can only print what it can hold. -/
def Machine.system : Machine :=
  { standard with
    printFault := fun _ t => if t.toString?.isSome then none else some "surrogates not allowed" }

end Wordsmith

open Wordsmith in
def main (arguments : List String) : IO UInt32 := do
  let arguments := arguments.map Text.ofString
  let here := Path.ofText (Text.ofString (← IO.currentDir).toString)
  let mut folder : Folder := { Folder.empty with start := here.names }
  let mut output : Path := here
  if let .ok (.convert input settings) := CommandLine.Request.ofArguments arguments then
    let job := CommandLine.Job.ofSettings input settings
    output := job.output
    folder ← folder.loadPath job.input
    folder ← folder.loadPath job.output
  let outcome := CommandLine.run .system Text.ofNat folder arguments
  for there in outcome.folder.stations output do
    outcome.folder.storeSince folder there
  (← IO.getStderr).putStr outcome.report.toSystem
  (← IO.getStdout).putStr outcome.output.toSystem
  match outcome.ending with
  | .returned status | .exited status => return status.toUInt32
  | .raised reason =>
    (← IO.getStderr).putStrLn reason.toSystem
    return 1
