import Wordsmith.CommandLine.Run
import Wordsmith.Token.Datum

/-!
# The service

Conversion over the web, without the transport: what each address answers. Wishes that cannot be met
and uploads that cannot be read are refused; a document that cannot be packed is a failure of the
service itself.
-/

namespace Wordsmith.Service

/-- The page with a form for an upload. -/
def index : Text :=
  Text.join "\n"
    ["<!DOCTYPE html>", "<html>",
      "<head><meta charset=\"utf-8\"><title>md2docx</title></head>", "<body>",
      "<h1>md2docx</h1>",
      "<form action=\"/convert\" method=\"post\" enctype=\"multipart/form-data\">",
      "  <input type=\"file\" name=\"file\" accept=\".md,.markdown,.txt\">",
      "  <select name=\"style\">",
      "    <option>default</option><option>academic</option>",
      "    <option>business</option><option>minimal</option>",
      "  </select>", "  <button type=\"submit\">Convert</button>", "</form>", "</body>", "</html>",
      ""]

/-- A record with these fields. -/
def record (fields : List (String × Datum)) : Datum :=
  .record (fields.map fun (name, value) => (Text.ofString name, value))

/-- Whether the service is up. -/
def health : Datum := record [("status", .text "ok"), ("version", .text CommandLine.version)]

/-- What a style can be chosen from. -/
def styles : Datum :=
  let list {α : Type} (names : List (String × α)) : Datum :=
    .list (names.map fun entry => .text (Text.ofString entry.1))
  record [("presets", list Preset.names), ("page_sizes", list Paper.names),
    ("link_modes", list LinkMode.names)]

/-- Code points that stand for themselves in the name of a download. -/
def isPlain (c : CodePoint) : Bool := c.isLetter || c.isDigit || c.isIn "_.-~/"

/-- How a download is offered. -/
def disposition (name : Text) : Text :=
  if name.all (·.val < 0x80) then "attachment; filename=\"" ++ name ++ "\""
  else "attachment; filename*=UTF-8''" ++ Text.percentEncode isPlain name

/-- What a style is chosen by. -/
structure Wishes where
  style : Text := "default"
  pageSize : Option Text := none
  linkMode : Option Text := none

/-- The style that is wished for. Unlike arguments of the command line, names are checked here for the
first time. -/
def Wishes.resolve (w : Wishes) : Except NameError Style :=
  StyleChoice.presetWith w.style w.pageSize w.linkMode

/-- What a request is answered with, unless the service fails. -/
inductive Response where
  /-- A package to download, under this name. -/
  | download (name : Text) (archive : Archive)
  /-- The request is refused. -/
  | refused (detail : Text)

def refusedStatus : Nat := 400

def okStatus : Nat := 200

variable (m : Machine)

/-- The package of a text for download. -/
def respond (style : Style) (markdown name : Text) : Except ConversionError Response := do
  return .download name (← style.convert m markdown).archive

/-- Converts a text that is part of the request. -/
def convertText (w : Wishes) (markdown : Text) : Except ConversionError Response :=
  match w.resolve with
  | .error e => .ok (.refused e.message)
  | .ok style => respond m style markdown "document.docx"

/-- The name of the package for an uploaded file; one without a name is called `document.md`. -/
def downloadName (name : Option Text) : Text :=
  let name := (name.filter (!·.isEmpty)).getD "document.md"
  ((Text.splitLast? '.' name).map (·.1)).getD name ++ ".docx"

/-- The text of an upload. -/
def readUpload (encoding : Text) (body : List UInt8) : Except DecodingError Text :=
  -- nothing can be read in any encoding, even in one that does not exist
  if body.isEmpty then .ok [] else m.decode encoding body

/-- The fault is one of the request: its encoding does not exist, or does not fit its bytes. -/
def isRefused : DecodingError → Bool
  | .unknownEncoding _ | .malformed .. => true
  | .noByteOrderMark | .other _ => false

/-- Converts an uploaded file. -/
def convertUpload (w : Wishes) (encoding : Text) (name : Option Text) (body : List UInt8) :
    Except ConversionError Response :=
  -- the style is chosen before the file is read
  match w.resolve with
  | .error e => .ok (.refused e.message)
  | .ok style =>
    match readUpload m encoding body with
    | .error e =>
      if isRefused e then .ok (.refused ("Cannot decode upload: " ++ e.message))
      else .error (.decoding e)
    | .ok markdown => respond m style markdown (downloadName name)

end Wordsmith.Service
