import WasmBuilder.Bytes

/-!
# LEB128

The variable-length form of integers in the binary format. A number is cut into groups of seven
bits, lowest group first; every byte but the last has its high bit set.

The functions work on exact integers. A word of 32 or 64 bits is written by its value, so its
width leaves no trace in the bytes.

## Termination

There is no fuel. Each step divides by 128.

* `unsigned`, `unsignedSize`: the number itself shrinks.
* `signed`: the absolute value shrinks, for a number outside the one-byte range.
-/

namespace WasmBuilder.Leb128

/-- The shortest unsigned form of `n`. -/
def unsigned (n : Nat) : Bytes :=
  if n < 128 then [UInt8.ofNat n] else UInt8.ofNat (n % 128 + 128) :: unsigned (n / 128)
termination_by n

/-- The number of bytes in the shortest unsigned form of `n`, found without writing it. -/
def unsignedSize (n : Nat) : Nat :=
  if n < 128 then 1 else unsignedSize (n / 128) + 1
termination_by n

/--
The shortest signed form of `x`, in two's complement.

The last byte's bit 6 is the sign, so the last group holds a number from -64 to 63. Division and
remainder round down, as a shift of a two's complement word does.
-/
def signed (x : Int) : Bytes :=
  if -64 ≤ x ∧ x < 64 then [UInt8.ofNat (x % 128).toNat]
  else UInt8.ofNat ((x % 128).toNat + 128) :: signed (x / 128)
termination_by x.natAbs

/-- The size computed is the size written. -/
theorem length_unsigned (n : Nat) : (unsigned n).length = unsignedSize n := by
  fun_induction unsignedSize n with
  | case1 n h => simp [unsigned, h]
  | case2 n h ih => rw [unsigned, if_neg h, List.length_cons, ih]

/-! ## Values at the edges of the groups -/

example : unsigned 0 = [0x00] := by decide +kernel
example : unsigned 127 = [0x7f] ∧ unsigned 128 = [0x80, 0x01] := by decide +kernel
example : unsigned 624485 = [0xe5, 0x8e, 0x26] := by decide +kernel
example : signed 63 = [0x3f] ∧ signed 64 = [0xc0, 0x00] := by decide +kernel
example : signed (-64) = [0x40] ∧ signed (-65) = [0xbf, 0x7f] := by decide +kernel
example : signed (-123456) = [0xc0, 0xbb, 0x78] := by decide +kernel

end WasmBuilder.Leb128
