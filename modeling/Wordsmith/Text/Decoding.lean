import Wordsmith.Text.Hex
import Wordsmith.Text.Utf16
import Wordsmith.Text.Utf8

/-!
# Reading bytes in a named encoding

An encoding is chosen by one of its names. Bytes that it cannot read are blamed with their position;
the wording is the same for all encodings. The encodings here are those that the program brings along;
a conversion takes any others from outside, and only the errors are shared with them.
-/

namespace Wordsmith

/-- An encoding that the library brings along. -/
inductive Encoding where
  | utf8
  /-- UTF-8 with or without a byte order mark in front. -/
  | utf8Marked
  | ascii
  | latin1
  /-- UTF-16 with a byte order mark that fixes the order of the bytes. -/
  | utf16
deriving DecidableEq, Repr

/-- Why bytes cannot be read as text. -/
inductive DecodingError where
  /-- No encoding has this name. -/
  | unknownEncoding (name : Text)
  /-- The encoding called `codec` cannot read `length` bytes from `position` on, of which `first` is
  the first one. -/
  | malformed (codec reason : String) (first : UInt8) (position length : Nat)
  /-- The byte order mark is missing. -/
  | noByteOrderMark
  /-- An encoding from outside says in words of its own what is wrong. -/
  | other (message : Text)
deriving DecidableEq

/-- The wording of an error. A single byte is shown, of several bytes only the positions. -/
def DecodingError.message : DecodingError → Text
  | .unknownEncoding name => "unknown encoding: " ++ name
  | .malformed codec reason first position length =>
    let bytes : Text :=
      if length = 1 then
        "byte 0x" ++ Text.hex true 2 first.toNat ++ " in position " ++ Text.ofNat position
      else
        "bytes in position " ++ Text.ofNat position ++ "-" ++ Text.ofNat (position + length - 1)
    "'" ++ Text.ofString codec ++ "' codec can't decode " ++ bytes ++ ": " ++ Text.ofString reason
  | .noByteOrderMark => "UTF-16 stream does not start with BOM"
  | .other message => message

namespace Encoding

/-- The names of each encoding in their plain form. -/
def names : List (Encoding × List String) :=
  [(.utf8, ["utf_8", "u8", "utf", "utf8", "utf8_ucs2", "utf8_ucs4", "cp65001"]),
   (.utf8Marked, ["utf_8_sig"]),
   (.ascii,
     ["ascii", "646", "ansi_x3.4_1968", "ansi_x3_4_1968", "ansi_x3.4_1986", "cp367", "csascii",
      "ibm367", "iso646_us", "iso_646.irv_1991", "iso_ir_6", "us", "us_ascii"]),
   (.latin1,
     ["latin_1", "8859", "cp819", "csisolatin1", "ibm819", "iso8859", "iso8859_1", "iso_8859_1",
      "iso_8859_1_1987", "iso_ir_100", "l1", "latin", "latin1"]),
   (.utf16, ["utf_16", "u16", "utf16"])]

/-- The plain form of a name: small letters, and one underscore for every run of other code points
between letters, digits and points. -/
def plainName (name : Text) : Text :=
  let word (c : CodePoint) : Bool := c.isLetter || c.isDigit || c.isIn "."
  let rec go (gap : Bool) : Text → Text
    | [] => []
    | c :: cs =>
      if word c then (if gap then [('_' : CodePoint)] else []) ++ c.toLower :: go false cs
      else go true cs
  go false (name.dropWhile (!word ·))

/-- The encoding with this name, in whichever of its spellings. -/
def ofName (name : Text) : Except DecodingError Encoding :=
  let plain := plainName name
  match names.find? fun entry => entry.2.any plain.isLiteral with
  | some entry => .ok entry.1
  | none => .error (.unknownEncoding name)

def decodeUtf8 (bytes : List UInt8) : Except DecodingError Text :=
  match Utf8.decode bytes with
  | .ok t => .ok t
  | .error ⟨fault, position, length⟩ =>
    let reason :=
      match fault with
      | .start => "invalid start byte"
      | .continuation => "invalid continuation byte"
      | .ending => "unexpected end of data"
    .error (.malformed "utf-8" reason (bytes.getD position 0) position length)

/-- Reads UTF-16 whose first code unit stands at `position`. -/
def decodeUtf16 (big : Bool) (position : Nat) (bytes : List UInt8) : Except DecodingError Text :=
  match Utf16.decodeFrom big position [] (bytes.drop position) with
  | .ok t => .ok t
  | .error ⟨fault, position, length⟩ =>
    let reason :=
      match fault with
      | .halfUnit => "truncated data"
      | .ending => "unexpected end of data"
      | .loneLow => "illegal encoding"
      | .loneHigh => "illegal UTF-16 surrogate"
    .error (.malformed (if big then "utf-16-be" else "utf-16-le") reason (bytes.getD position 0)
      position length)

/-- Reads bytes below 128. -/
def decodeAscii (bytes : List UInt8) : Except DecodingError Text :=
  match bytes.findIdx? (128 ≤ ·) with
  | none => .ok (bytes.map fun b => .ofNat b.toNat)
  | some position =>
    .error (.malformed "ascii" "ordinal not in range(128)" (bytes.getD position 0) position 1)

/-- The text that the bytes write in an encoding. -/
def decode (e : Encoding) (bytes : List UInt8) : Except DecodingError Text :=
  match e with
  | .utf8 => decodeUtf8 bytes
  | .utf8Marked =>
    match bytes with
    | 0xEF :: 0xBB :: 0xBF :: rest => decodeUtf8 rest
    | _ => decodeUtf8 bytes
  | .ascii => decodeAscii bytes
  | .latin1 => .ok (bytes.map fun b => .ofNat b.toNat)
  | .utf16 =>
    match bytes with
    | 0xFF :: 0xFE :: _ => decodeUtf16 false 2 bytes
    | 0xFE :: 0xFF :: _ => decodeUtf16 true 2 bytes
    -- without a mark the lower byte of each unit comes first
    | _ => decodeUtf16 false 0 bytes

/-- The bytes start with a byte order mark of UTF-16. -/
def hasByteOrderMark : List UInt8 → Bool
  | 0xFF :: 0xFE :: _ => true
  | 0xFE :: 0xFF :: _ => true
  | _ => false

/-- Every line ending becomes a line feed; `afterReturn` says that a carriage return stood before the
text. -/
def unifyLineEndings (afterReturn : Bool) : Text → Text
  | [] => []
  | c :: cs =>
    if c = '\r' then '\n' :: unifyLineEndings true cs
    -- the carriage return of a pair has ended the line already
    else if c = '\n' && afterReturn then unifyLineEndings false cs
    else c :: unifyLineEndings false cs

/-- The bytes end inside the byte order mark of UTF-8. -/
def isCutMark (bytes : List UInt8) : Bool := bytes.isPrefixOf [0xEF, 0xBB]

/-- The text that the bytes of a file write in an encoding. -/
def decodeFile (e : Encoding) (bytes : List UInt8) : Except DecodingError Text := do
  -- a file that ends inside a mark has no text yet
  if e = .utf8Marked && isCutMark bytes then return []
  let text ← e.decode bytes
  -- files in UTF-16 need the mark that bytes from elsewhere may lack
  if e = .utf16 && !bytes.isEmpty && !hasByteOrderMark bytes then .error .noByteOrderMark
  else return text

end Encoding

end Wordsmith
