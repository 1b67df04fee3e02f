import BytecodeViewer.Archive.Bytes

/-!
# Checksums

The cyclic redundancy check of 32 bits with the reflected polynomial
`0xEDB88320`, which archives store for every entry.
-/

namespace BytecodeViewer

namespace Checksum

def step (r : UInt32) : UInt32 :=
  if r &&& 1 = 1 then (r >>> 1) ^^^ 0xEDB88320 else r >>> 1

def steps : Nat → UInt32 → UInt32
  | 0, r => r
  | n + 1, r => steps n (step r)

def addByte (r : UInt32) (b : UInt8) : UInt32 :=
  steps 8 (r ^^^ b.toUInt32)

end Checksum

def checksum (b : Bytes) : UInt32 :=
  b.foldl Checksum.addByte 0xFFFFFFFF ^^^ 0xFFFFFFFF

end BytecodeViewer
