import WasmBuilder.Binary

/-!
# Opcodes

An instruction starts with one byte, or with a lead byte that opens a family of instructions and a
number within the family.
-/

namespace WasmBuilder

/-- What an instruction starts with. -/
inductive Opcode where
  /-- A single byte. -/
  | byte (b : UInt8)
  /-- A lead byte and the number of the instruction in the lead's family. -/
  | extended (lead : UInt8) (sub : UInt32)
deriving DecidableEq

namespace Opcode

/-- The family of saturating conversions and of bulk operations on memories and tables. -/
def misc (sub : UInt32) : Opcode := extended 0xfc sub

/-- The family of vector instructions. -/
def simd (sub : UInt32) : Opcode := extended 0xfd sub

end Opcode

instance : Binary Opcode where
  writes
    | .byte b => [.byte b]
    | .extended lead sub => [.byte lead, .u32 sub]

/-- The opcode's bytes in hexadecimal, with a blank between bytes. -/
def Opcode.text (c : Opcode) : String := (Binary.toBytes c).toSpacedHex

end WasmBuilder
