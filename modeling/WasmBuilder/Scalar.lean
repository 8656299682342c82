import WasmBuilder.Bytes

/-!
# Floating-point and vector constants

A float is kept as its bit pattern, so that NaN payloads and signs pass through unchanged. Numeric
comparison is a second notion beside equality of patterns: NaN differs from itself, and the two
zeros are equal.
-/

namespace WasmBuilder

/-- A 32-bit float, by its bit pattern. -/
structure F32 where
  bits : UInt32
deriving DecidableEq

/-- A 64-bit float, by its bit pattern. -/
structure F64 where
  bits : UInt64
deriving DecidableEq

/-- A 128-bit vector as its sixteen bytes, in the order in which they are stored. -/
abbrev V128 := Vector UInt8 16

/--
Numeric equality of two bit patterns of the same float format. The sign bit is worth `sign`, and
`infinity` is the pattern of positive infinity: a NaN is what lies above it once the sign is gone.
-/
def sameNumber (sign infinity a b : Nat) : Bool :=
  a % sign ≤ infinity && b % sign ≤ infinity && (a == b || (a % sign == 0 && b % sign == 0))

namespace F32

/-- The four bytes of the pattern, lowest first. -/
def toBytes (x : F32) : Bytes := Bytes.littleEndian 4 x.bits.toNat

/-- Equality of the numbers, not of the patterns. -/
def sameValue (x y : F32) : Bool :=
  sameNumber 0x80000000 0x7f800000 x.bits.toNat y.bits.toNat

end F32

namespace F64

/-- The eight bytes of the pattern, lowest first. -/
def toBytes (x : F64) : Bytes := Bytes.littleEndian 8 x.bits.toNat

/-- Equality of the numbers, not of the patterns. -/
def sameValue (x y : F64) : Bool :=
  sameNumber 0x8000000000000000 0x7ff0000000000000 x.bits.toNat y.bits.toNat

end F64

/-! ## NaN and the two zeros -/

example : F32.sameValue ⟨0x7fc00000⟩ ⟨0x7fc00000⟩ = false := by decide
example : F32.sameValue ⟨0x00000000⟩ ⟨0x80000000⟩ = true := by decide
example : F32.sameValue ⟨0x3f800000⟩ ⟨0xbf800000⟩ = false := by decide
example : F64.sameValue ⟨0x7ff0000000000000⟩ ⟨0x7ff0000000000000⟩ = true := by decide
example : F64.sameValue ⟨0xfff0000000000001⟩ ⟨0xfff0000000000001⟩ = false := by decide

end WasmBuilder
