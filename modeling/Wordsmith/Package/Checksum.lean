/-!
# The checksum of an archive entry

The 32-bit cyclic redundancy check with the reflected polynomial `0xEDB88320`.
-/

namespace Wordsmith.Checksum

/-- One step of the shift register. -/
def step (register : UInt32) : UInt32 :=
  if register &&& 1 = 1 then (register >>> 1) ^^^ 0xEDB88320 else register >>> 1

/-- The register after one byte. -/
def absorb (register : UInt32) (byte : UInt8) : UInt32 :=
  step (step (step (step (step (step (step (step (register ^^^ byte.toUInt32))))))))

def crc32 (bytes : List UInt8) : UInt32 := bytes.foldl absorb 0xFFFFFFFF ^^^ 0xFFFFFFFF

end Wordsmith.Checksum
