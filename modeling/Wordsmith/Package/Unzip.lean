import Wordsmith.Package.Zip

/-!
# Reading archives back

The entries of an archive from its bytes. Only data in stored blocks is read, which is how archives
are written here.
-/

namespace Wordsmith

/-- The number that bytes stand for, the lowest one first. -/
def ofLittleEndian : List UInt8 → Nat
  | [] => 0
  | byte :: bytes => byte.toNat + 256 * ofLittleEndian bytes

namespace Deflate

/-- The data of a stream of stored blocks, and what follows the stream. -/
def read? : List UInt8 → Option (List UInt8 × List UInt8)
  | final :: low :: high :: _ :: _ :: rest =>
    let size := ofLittleEndian [low, high]
    if final = 1 then some (rest.take size, rest.drop size)
    else do
      let (data, after) ← read? (rest.drop size)
      return (rest.take size ++ data, after)
  | _ => none
termination_by bytes => bytes.length
decreasing_by
  simp only [List.length_drop, List.length_cons]
  omega

end Deflate

/-- The bytes that the header of every entry starts with. -/
def Entry.signature : List UInt8 := littleEndian 4 0x04034B50

/-- The entry that a record holds, and what follows the record. -/
def Entry.ofRecord? (bytes : List UInt8) : Option (Entry × List UInt8) := do
  guard (Entry.signature.isPrefixOf bytes)
  let nameSize := ofLittleEndian ((bytes.drop 26).take 2)
  let extraSize := ofLittleEndian ((bytes.drop 28).take 2)
  let rest := bytes.drop 30
  let name ← (Utf8.decode (rest.take nameSize)).toOption
  let (data, after) ← Deflate.read? (rest.drop (nameSize + extraSize))
  return (⟨name, data⟩, after)

namespace Archive

/-- The entries that the records at the start of `bytes` hold, at most `fuel` of them. -/
def entriesOf (bytes : List UInt8) : (fuel : Nat) → List Entry
  | 0 => []
  | fuel + 1 =>
    match Entry.ofRecord? bytes with
    | some (e, after) => e :: entriesOf after fuel
    | none => []

/-- The archive that bytes hold; a record takes more than one byte, so none is left out. -/
def ofBytes (bytes : List UInt8) : Archive := ⟨entriesOf bytes bytes.length⟩

end Archive

end Wordsmith
