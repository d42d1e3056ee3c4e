import Wordsmith.CommandLine.Request
import Wordsmith.Conversion

/-!
# Runs of the command line

What a run prints, how it ends, and what it leaves in the folder that it starts in. Status one says that
the conversion failed, status two that the arguments were refused. Errors of the conversion are reported;
an error that is met before it or after it, when the system cannot tell what there is or a text cannot be
printed, is passed on.
-/

namespace Wordsmith.CommandLine

/-- The version of the program, which the service gives too. -/
def version : Text := "0.1.0"

/-- A text as a line of its own. -/
def line (t : Text) : Text := t ++ "\n"

/-- The short form of the help, which also stands in front of a refusal. -/
def usage : Text :=
  line "usage: md2docx [-h] [-o OUTPUT] [-s \x7bdefault,academic,business,minimal\x7d]" ++
    line "               [--page-size \x7bletter,legal,a4,a3,a5,executive,tabloid\x7d]" ++
    line "               [--link-mode \x7bcolored_text,inline_url,hyperlink\x7d] [-e ENCODING]" ++
    line "               [--list-styles] [-v] [--version]" ++
    line "               [input]"

def help : Text :=
  usage ++ line "" ++ line "Convert Markdown files to Word (DOCX) format." ++ line "" ++
    line "positional arguments:" ++
    line "  input                 Path to the Markdown file to convert." ++ line "" ++
    line "options:" ++
    line "  -h, --help            show this help message and exit" ++
    line "  -o OUTPUT, --output OUTPUT" ++
    line "                        Output DOCX file path. Defaults to <input>.docx." ++
    line "  -s \x7bdefault,academic,business,minimal\x7d, --style \x7bdefault,academic,business,minimal\x7d" ++
    line "                        Style preset (default: default)." ++
    line "  --page-size \x7bletter,legal,a4,a3,a5,executive,tabloid\x7d" ++
    line "                        Paper size; overrides the style preset." ++
    line "  --link-mode \x7bcolored_text,inline_url,hyperlink\x7d" ++
    line "                        How links are written; overrides the style preset." ++
    line "  -e ENCODING, --encoding ENCODING" ++
    line "                        Input file encoding (default: utf-8)." ++
    line "  --list-styles         List available style presets and exit." ++
    line "  -v, --verbose         Print progress information." ++
    line "  --version             show program's version number and exit"

/-- The lines that list the presets, in the order in which they are offered. -/
def presetList : List Text :=
  line "Available style presets:" ::
    Preset.names.map fun entry => line ("  - " ++ Text.ofString entry.1)

/-- How a run ends. -/
inductive Ending where
  | returned (status : Nat)
  /-- The arguments end the run before it has begun. -/
  | exited (status : Nat)
  /-- An error that is passed on. -/
  | raised (reason : Text)
deriving DecidableEq

/-- What a run has led to. -/
structure Outcome where
  ending : Ending
  /-- What is printed. -/
  output : Text
  /-- What is reported beside it. -/
  report : Text
  folder : Folder

/-- The paths and names that a conversion of the command line works with. -/
structure Job where
  input : Path
  output : Path
  settings : Settings

namespace Job

/-- The job that settings ask for. -/
def ofSettings (input : Text) (settings : Settings) : Job :=
  let input := Path.ofText input
  { input
    output :=
      match settings.output with
      | some (c :: t) => .ofText (c :: t)
      -- an output that is not named stands beside the input
      | _ => input.withEnding ".docx"
    settings }

/-- What is printed before the conversion. -/
def announcement (j : Job) : List Text :=
  if j.settings.verbose then
    [line ("Input:  " ++ j.input.toText), line ("Output: " ++ j.output.toText),
      line ("Style:  " ++ j.settings.style)]
  else []

/-- What is printed after the conversion; the size is that of what is at the output by now. -/
def conclusion (j : Job) (m : Machine) (showSize : Nat → Text) (folder : Folder) :
    Except FileError Text :=
  if j.settings.verbose then do
    return line ("Done. " ++ showSize (← folder.size m.refusals j.output) ++ " bytes written.")
  else return line ("Converted: " ++ j.output.toText)

/-- The events as they are reported. -/
def eventReport (j : Job) (showSize : Nat → Text) (events : List ConversionEvent) : Text :=
  if j.settings.verbose then events.flatMap fun e => line (e.message showSize) else []

/-- How an error is reported. -/
def errorReport (message : Text) : Text := line ("Error: " ++ message)

/-- The end of a run that has stored its package in `folder`, after what has been printed and reported
before. -/
def conclude (j : Job) (m : Machine) (showSize : Nat → Text) (before report : Text)
    (folder : Folder) : Outcome :=
  match j.conclusion m showSize folder with
  | .error e => ⟨.raised e.message, before, report, folder⟩
  | .ok text =>
    match m.print before [text] with
    | (output, some reason) => ⟨.raised reason, output, report, folder⟩
    | (output, none) => ⟨.returned 0, output, report, folder⟩

/-- Converts an input that is there, after what has been printed before. -/
def convert (j : Job) (m : Machine) (showSize : Nat → Text) (before : Text) (folder : Folder) :
    Outcome :=
  let failed (report : Text) (folder : Folder) : Outcome := ⟨.returned 1, before, report, folder⟩
  match StyleChoice.presetWith j.settings.style j.settings.pageSize j.settings.linkMode with
  | .error e => failed (errorReport e.message) folder
  | .ok style =>
    match style.convertFile m folder j.input j.settings.encoding with
    | .error e => failed (j.eventReport showSize e.events ++ errorReport e.message) folder
    | .ok c =>
      let report := j.eventReport showSize c.events
      match folder.save m.refusals j.output c.bytes with
      | .error i => failed (report ++ errorReport i.error.message) i.folder
      | .ok folder =>
        j.conclude m showSize before (report ++ j.eventReport showSize [.written j.output]) folder

/-- Runs a job: looks for the input, prints the announcement, and converts. -/
def run (j : Job) (m : Machine) (showSize : Nat → Text) (folder : Folder) : Outcome :=
  match folder.isFile m.refusals j.input with
  | .error e => ⟨.raised e.message, [], [], folder⟩
  | .ok false =>
    ⟨.returned 1, [], errorReport ("file not found: " ++ j.input.toText), folder⟩
  | .ok true =>
    match m.print [] j.announcement with
    | (output, some reason) => ⟨.raised reason, output, [], folder⟩
    -- what is printed before an error stays printed
    | (output, none) => j.convert m showSize output folder

end Job

/-- How arguments are refused, below the usage. -/
def refusal (e : ArgumentError) : Text := line ("md2docx: error: " ++ e.message)

/-- Runs the program with arguments in a folder; `showSize` writes the size of an archive. -/
def run (m : Machine) (showSize : Nat → Text) (folder : Folder) (arguments : List Text) : Outcome :=
  match Request.ofArguments arguments with
  | .error e => ⟨.exited 2, [], usage ++ refusal e, folder⟩
  | .ok .help => ⟨.exited 0, help, [], folder⟩
  | .ok .version => ⟨.exited 0, line ("md2docx " ++ version), [], folder⟩
  | .ok .listStyles =>
    match m.print [] presetList with
    | (output, some reason) => ⟨.raised reason, output, [], folder⟩
    | (output, none) => ⟨.returned 0, output, [], folder⟩
  | .ok (.convert input settings) => (Job.ofSettings input settings).run m showSize folder

end Wordsmith.CommandLine
