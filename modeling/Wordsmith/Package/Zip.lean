import Wordsmith.Package.Archive

/-!
# Archives as bytes

The bytes of a ZIP file: for each entry a header and its data, then the directory with one record per
entry, then the end record. The data is a deflate stream of stored blocks, which any reader of the
format accepts.
-/

namespace Wordsmith

/-- The last `width` bytes of a number, the lowest one first. -/
def littleEndian : (width value : Nat) → List UInt8
  | 0, _ => []
  | width + 1, value => value.toUInt8 :: littleEndian width (value / 256)

theorem length_littleEndian (width value : Nat) : (littleEndian width value).length = width := by
  induction width generalizing value with
  | zero => rfl
  | succ width ih => simp [littleEndian, ih]

namespace Deflate

/-- The greatest number of bytes in a stored block. -/
def blockSize : Nat := 65535

def block (final : Bool) (data : List UInt8) : List UInt8 :=
  (if final then 1 else 0) ::
    (littleEndian 2 data.length ++ littleEndian 2 (blockSize - data.length) ++ data)

/-- A deflate stream of stored blocks. -/
def stream (data : List UInt8) : List UInt8 :=
  if _short : data.length ≤ blockSize then block true data
  else block false (data.take blockSize) ++ stream (data.drop blockSize)
termination_by data.length
decreasing_by
  simp only [List.length_drop, blockSize] at _short ⊢
  omega

end Deflate

namespace Entry

def nameBytes (e : Entry) : List UInt8 := e.name.flatMap CodePoint.utf8

/-- The fields that the header of an entry and its record in the directory have in common: versions,
flags, method, time, checksum, sizes and the length of the name. -/
def description (e : Entry) (stored : Nat) : List UInt8 :=
  -- only a name that is not ASCII is flagged as UTF-8
  let unicodeName := if e.name.all (·.val < 0x80) then 0 else 0x800
  let (year, month, day) := Archive.date
  littleEndian 2 20 ++ littleEndian 2 unicodeName ++ littleEndian 2 Archive.method ++
    littleEndian 2 0 ++ littleEndian 2 ((year - 1980) * 512 + month * 32 + day) ++
    littleEndian 4 e.checksum.toNat ++ littleEndian 4 stored ++ littleEndian 4 e.size ++
    littleEndian 2 e.nameBytes.length

/-- The header and the data of an entry. -/
def record (e : Entry) : List UInt8 :=
  let data := Deflate.stream e.data
  littleEndian 4 0x04034B50 ++ e.description data.length ++ littleEndian 2 0 ++ e.nameBytes ++ data

/-- The record of an entry in the directory; `offset` is where its header stands. -/
def directoryRecord (offset : Nat) (e : Entry) : List UInt8 :=
  littleEndian 4 0x02014B50 ++ littleEndian 2 (3 * 256 + 20) ++
    e.description (Deflate.stream e.data).length ++ littleEndian 2 0 ++ littleEndian 2 0 ++
    littleEndian 2 0 ++ littleEndian 2 0 ++ littleEndian 4 (Archive.permissions * 65536) ++
    littleEndian 4 offset ++ e.nameBytes

end Entry

namespace Archive

/-- The directory records of entries whose headers start at `offset`. -/
def directory (offset : Nat) : List Entry → List UInt8
  | [] => []
  | e :: es => e.directoryRecord offset ++ directory (offset + e.record.length) es

def bytes (a : Archive) : List UInt8 :=
  let records := a.entries.flatMap Entry.record
  let directory := directory 0 a.entries
  let count := a.entries.length
  records ++ directory ++ littleEndian 4 0x06054B50 ++ littleEndian 2 0 ++ littleEndian 2 0 ++
    littleEndian 2 count ++ littleEndian 2 count ++ littleEndian 4 directory.length ++
    littleEndian 4 records.length ++ littleEndian 2 0

end Archive

end Wordsmith
