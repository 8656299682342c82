import WasmBuilder.Leb128

/-!
# Reading LEB128

Readers for the numbers that `WasmBuilder.Leb128` writes. Each takes a number from the front of
some bytes and gives back the bytes after it.

* `readUnsigned` and `readSigned` read a number of any size.
* `readUnsignedBelow` and `readSignedWithin` are the strict readers of the binary format: a number
  of so many bits may take no more bytes than its bits need, and the bits of the last byte that
  lie beyond them may not say anything else.

None of them asks for the shortest form.
-/

namespace WasmBuilder.Leb128

/-- Reads an unsigned number. -/
def readUnsigned : Bytes → Option (Nat × Bytes)
  | [] => none
  | b :: rest =>
    if b.toNat < 128 then some (b.toNat, rest)
    else (readUnsigned rest).map fun (n, rest) => (b.toNat - 128 + 128 * n, rest)

/-- Reads a signed number in two's complement. -/
def readSigned : Bytes → Option (Int × Bytes)
  | [] => none
  | b :: rest =>
    if b.toNat < 64 then some (b.toNat, rest)
    else if b.toNat < 128 then some ((b.toNat : Int) - 128, rest)
    else (readSigned rest).map fun (x, rest) => ((b.toNat : Int) - 128 + 128 * x, rest)

/-- Reads an unsigned number of `bits` bits. -/
def readUnsignedBelow (bits : Nat) : Bytes → Option (Nat × Bytes)
  | [] => none
  | b :: rest =>
    if b.toNat < 128 then if b.toNat < 1 <<< bits then some (b.toNat, rest) else none
    else if bits ≤ 7 then none
    else (readUnsignedBelow (bits - 7) rest).map fun (n, rest) => (b.toNat - 128 + 128 * n, rest)

/-- Reads a signed number of `bits` bits, the sign among them. -/
def readSignedWithin (bits : Nat) : Bytes → Option (Int × Bytes)
  | [] => none
  | b :: rest =>
    if b.toNat < 64 then if b.toNat < 1 <<< (bits - 1) then some (b.toNat, rest) else none
    else if b.toNat < 128 then
      if 128 - b.toNat ≤ 1 <<< (bits - 1) then some ((b.toNat : Int) - 128, rest) else none
    else if bits ≤ 7 then none
    else
      (readSignedWithin (bits - 7) rest).map fun (x, rest) =>
        ((b.toNat : Int) - 128 + 128 * x, rest)

/-! ## Reading what was written -/

/-- A byte made of a number below 256 holds that number. -/
theorem toNat_ofNat_lt {n : Nat} (h : n < 256) : (UInt8.ofNat n).toNat = n := by
  simp [Nat.mod_eq_of_lt h]

/-- An unsigned number is read back, whatever follows it. -/
theorem readUnsigned_unsigned (n : Nat) (rest : Bytes) :
    readUnsigned (unsigned n ++ rest) = some (n, rest) := by
  fun_induction unsigned n with
  | case1 n h => simp [readUnsigned, toNat_ofNat_lt (show n < 256 by omega), h]
  | case2 n h ih =>
    have hb := toNat_ofNat_lt (show n % 128 + 128 < 256 by omega)
    simp only [List.cons_append, readUnsigned, hb, ih, Option.map_some,
      show ¬(n % 128 + 128 < 128) by omega, if_false]
    exact congrArg (fun y => some (y, rest)) (by omega)

/-- A signed number is read back, whatever follows it. -/
theorem readSigned_signed (x : Int) (rest : Bytes) :
    readSigned (signed x ++ rest) = some (x, rest) := by
  fun_induction signed x with
  | case1 x h =>
    have hb := toNat_ofNat_lt (show (x % 128).toNat < 256 by omega)
    simp only [List.cons_append, List.nil_append, readSigned, hb]
    split
    · exact congrArg (fun y => some (y, rest)) (by omega)
    · rw [if_pos (by omega)]
      exact congrArg (fun y => some (y, rest)) (by omega)
  | case2 x h ih =>
    have hb := toNat_ofNat_lt (show (x % 128).toNat + 128 < 256 by omega)
    simp only [List.cons_append, readSigned, hb, ih, Option.map_some,
      show ¬((x % 128).toNat + 128 < 64) by omega, show ¬((x % 128).toNat + 128 < 128) by omega,
      if_false]
    exact congrArg (fun y => some (y, rest)) (by omega)

end WasmBuilder.Leb128
