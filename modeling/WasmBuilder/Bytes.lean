/-!
# Bytes

The output of the library is a list of bytes. This module fixes that type and the three ways in
which other data becomes bytes without a length in front: text as UTF-8, machine words with the
lowest byte first, and, in the other direction, bytes as hexadecimal text.
-/

namespace WasmBuilder

/-- A string of bytes. -/
abbrev Bytes := List UInt8

namespace Bytes

/-- The UTF-8 form of a text. -/
def ofText (s : String) : Bytes := s.toUTF8.data.toList

/-- The lowest `width` bytes of `n`, lowest first. -/
def littleEndian : (width n : Nat) → Bytes
  | 0, _ => []
  | width + 1, n => UInt8.ofNat (n % 256) :: littleEndian width (n / 256)

/-- A word of `width` bytes always takes `width` bytes. -/
@[simp] theorem length_littleEndian : ∀ width n : Nat, (littleEndian width n).length = width
  | 0, _ => rfl
  | width + 1, n => by simp [littleEndian, length_littleEndian width (n / 256)]

/-! ## Hexadecimal text -/

/-- The digit of a value below 16, in lower case. -/
def hexDigit (n : Nat) : Char := Nat.digitChar n

/-- A byte as two digits. -/
def hexPair (b : UInt8) : List Char := [hexDigit (b.toNat / 16), hexDigit (b.toNat % 16)]

/-- The bytes as hexadecimal digits, two a byte, with nothing between. -/
def toHex (bs : Bytes) : String := String.ofList (bs.flatMap hexPair)

/-- The bytes as hexadecimal digits, two a byte, with a blank between bytes. -/
def toSpacedHex (bs : Bytes) : String :=
  " ".intercalate (bs.map fun b => String.ofList (hexPair b))

end Bytes

end WasmBuilder
