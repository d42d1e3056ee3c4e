import Wordsmith.Package.Checksum
import Wordsmith.Package.Part
import Wordsmith.Text.Utf8

/-!
# Packages as archives

A package is an archive with one entry per part. All entries carry the same fixed time and
permissions, so equal contents give equal archives. A part that holds a surrogate cannot be encoded:
that is the only way in which a document fails to become an archive, unless the archive itself cannot
be written.
-/

namespace Wordsmith

/-- A name with the bytes that are stored under it. -/
structure Entry where
  name : Text
  data : List UInt8
deriving DecidableEq

namespace Entry

/-- The number of bytes before compression. -/
def size (e : Entry) : Nat := e.data.length

/-- The checksum by which a reader finds damage. -/
def checksum (e : Entry) : UInt32 := Checksum.crc32 e.data

/-- Puts an entry in the place of the one of its name, or at the end if there is none. -/
def put (entries : List Entry) (e : Entry) : List Entry :=
  if entries.any (·.name = e.name) then entries.map fun d => if d.name = e.name then e else d
  else entries ++ [e]

/-- One entry of each name: the last one, at the place of the first. -/
def lastOfEach (entries : List Entry) : List Entry := entries.foldl put []

end Entry

/-- An archive: its entries in the order in which they were stored. -/
structure Archive where
  entries : List Entry
deriving DecidableEq

namespace Archive

/-- The year, month and day that every entry is dated from; the time is midnight. -/
def date : Nat × Nat × Nat := (1980, 1, 1)

/-- The number of the compression method of every entry, "deflate". -/
def method : Nat := 8

/-- The permissions of every entry: its owner may read and write it. -/
def permissions : Nat := 6 * 8 * 8

end Archive

/-- Why a document has no package. -/
inductive PackageError where
  /-- A part holds a surrogate. -/
  | encoding (part : Part)
  /-- The archive could not be written, for this reason. -/
  | archive (reason : Text)
deriving DecidableEq

/-- The wording of an error: the part that holds the surrogate, or the reason that was met. -/
def PackageError.message : PackageError → Text
  | .encoding part => "Cannot encode " ++ Text.ofString part.name ++ " as UTF-8"
  | .archive reason => "Cannot write DOCX archive: " ++ reason

/-- Stores entries in an archive; `refusal` tells why an entry cannot be stored, if it cannot. -/
def Archive.store (refusal : Entry → Option Text) (entries : List Entry) :
    Except PackageError Archive :=
  match entries.findSome? refusal with
  | some reason => .error (.archive reason)
  | none => .ok ⟨entries⟩

/-- The entry for a part with its text in UTF-8, under the name of the part. -/
def Part.encode (part : Part) (text : Text) : Except PackageError Entry :=
  match text.utf8? with
  | some data => .ok ⟨part.name, data⟩
  | none => .error (.encoding part)

namespace Style

/-- The entries of the package that a style makes of a sequence of elements. -/
def entries (s : Style) (elements : List Element) : Except PackageError (List Entry) :=
  -- of several parts that cannot be encoded, the first one is blamed
  (s.parts elements).mapM fun (part, text) => part.encode text

/-- The package that a style makes of a sequence of elements. -/
def package (s : Style) (elements : List Element) : Except PackageError Archive := do
  Archive.store (fun _ => none) (← s.entries elements)

end Style

end Wordsmith
