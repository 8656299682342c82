import WasmBuilder.Proofs.Leb128.Minimal
import WasmBuilder.Reader.Types

/-!
# Block types as numbers

A block type is written in one of three ways: the empty type and the value types have a byte each,
and an index is a signed number. Nothing in front of the bytes says which way it is, so the three
have to stay apart by themselves.

They do because all of them are signed numbers (`BlockType.toBytes_eq_signed`). A byte between 64
and 127 is a number below zero, and an index is not: where bit 6 of its last group would be taken
for a sign, another byte follows. Numbers are read back whatever follows them, and different block
types have different numbers, so everything about the bytes comes down to `BlockType.number`.
-/

namespace WasmBuilder

namespace Leb128

/-- A byte with bit 6 set and bit 7 clear is the form of a number below zero. -/
theorem signed_byte_sub {b : UInt8} (hlo : 64 ≤ b.toNat) (hhi : b.toNat < 128) :
    signed ((b.toNat : Int) - 128) = [b] := by
  have hgroup : (((b.toNat : Int) - 128) % 128).toNat = b.toNat := by omega
  rw [signed, if_pos (by omega), hgroup, UInt8.ofNat_toNat]

end Leb128

theorem ValType.byte_bounds (t : ValType) : 64 < t.byte.toNat ∧ t.byte.toNat < 128 := by
  cases t <;> decide

namespace BlockType

/-- The signed number that a block type is written as. -/
def number : BlockType → Int
  | empty => -64
  | value t => (t.byte.toNat : Int) - 128
  | type i => i.val.toNat

theorem number_bounds (b : BlockType) : -64 ≤ b.number ∧ b.number < UInt32.size := by
  cases b with
  | empty => decide
  | value t =>
    obtain ⟨hlo, hhi⟩ := t.byte_bounds
    rw [number, show (UInt32.size : Int) = 4294967296 from rfl]
    omega
  | type i => exact ⟨by rw [number]; omega, Int.ofNat_lt.mpr i.val.toNat_lt⟩

/-- The number tells which block type it is of. -/
theorem blockTypeOf?_number (b : BlockType) : Reader.blockTypeOf? b.number = some b := by
  cases b with
  | empty => rfl
  | value t => cases t <;> rfl
  | type i =>
    show some (BlockType.type ⟨UInt32.ofNat i.val.toNat⟩) = _
    rw [UInt32.ofNat_toNat]

theorem number_inj {b c : BlockType} : b.number = c.number ↔ b = c := by
  constructor
  · intro h
    have hsame := blockTypeOf?_number b
    rw [h, blockTypeOf?_number] at hsame
    exact (Option.some.inj hsame).symm
  · rintro rfl
    rfl

/-! ## Bytes -/

/-- **Every block type is written as its number.** -/
theorem toBytes_eq_signed (b : BlockType) : Binary.toBytes b = Leb128.signed b.number := by
  cases b with
  | empty => exact (Leb128.signed_byte_sub (b := 0x40) (by decide) (by decide)).symm
  | value t =>
    obtain ⟨hlo, hhi⟩ := t.byte_bounds
    exact (Leb128.signed_byte_sub (Nat.le_of_lt hlo) hhi).symm
  | type i =>
    have hi := i.val.toNat_lt
    show Leb128.signed (Int64.ofNat i.val.toNat).toInt ++ [] = _
    rw [Int64.toInt_ofNat_of_lt (by omega), List.append_nil]
    rfl

theorem readSigned_toBytes (b : BlockType) (rest : Bytes) :
    Leb128.readSigned (Binary.toBytes b ++ rest) = some (b.number, rest) := by
  rw [toBytes_eq_signed, Leb128.readSigned_signed]

/-- The numbers fit in 33 bits, one of them the sign. -/
theorem readSignedWithin_toBytes (b : BlockType) (rest : Bytes) :
    Leb128.readSignedWithin 33 (Binary.toBytes b ++ rest) = some (b.number, rest) := by
  obtain ⟨hlo, hhi⟩ := b.number_bounds
  have hpow : 1 <<< (33 - 1) = UInt32.size := rfl
  rw [toBytes_eq_signed]
  refine Leb128.readSignedWithin_signed b.number 33 rest ?_ ?_
  · rw [hpow]
    omega
  · rw [hpow]
    exact hhi

/-- Bytes that start with those of a block type are of no other block type. -/
theorem toBytes_prefix_iff {b c : BlockType} : Binary.toBytes b <+: Binary.toBytes c ↔ b = c := by
  constructor
  · rintro ⟨rest, h⟩
    have hb := readSigned_toBytes b rest
    have hc := readSigned_toBytes c []
    rw [List.append_nil, ← h, hb] at hc
    exact number_inj.mp (congrArg Prod.fst (Option.some.inj hc))
  · rintro rfl
    exact List.prefix_refl _

theorem length_toBytes_le (b : BlockType) : (Binary.toBytes b).length ≤ 5 := by
  obtain ⟨hlo, hhi⟩ := b.number_bounds
  have hpow : 1 <<< (7 * 4 + 6) = 4 * UInt32.size := rfl
  rw [toBytes_eq_signed]
  refine Leb128.length_signed_le 4 ?_ ?_ <;>
    · rw [hpow]
      omega

/-- The bytes of an index do not start with a byte that is a block type by itself. -/
theorem head?_toBytes_type_ne (i : TypeIdx) {b : BlockType} {byte : UInt8}
    (hbyte : Binary.toBytes b = [byte]) (hb : b ≠ .type i) :
    (Binary.toBytes (BlockType.type i)).head? ≠ some byte := by
  intro hhead
  obtain ⟨rest, hrest⟩ := List.head?_eq_some_iff.mp hhead
  refine hb (toBytes_prefix_iff.mp ⟨rest, ?_⟩)
  rw [hbyte, hrest]
  rfl

/-- **Block types are told apart by one signed number.** Whatever follows, the bytes of a block type
are read as its number, by a reader of numbers of any size and by one of 33 bits, and none of the
bytes behind them is taken. The number is negative for the empty type and for the value types and is
the index itself for an index. No two block types have the same number, so no bytes of one are the
beginning of those of another. An index takes five bytes at most, and its first is not the byte of
the empty type or of a value type. -/
theorem number_decides :
    (∀ (b : BlockType) (rest : Bytes),
      Leb128.readSigned (Binary.toBytes b ++ rest) = some (b.number, rest) ∧
      Leb128.readSignedWithin 33 (Binary.toBytes b ++ rest) = some (b.number, rest)) ∧
    (empty.number < 0 ∧ (∀ t, (value t).number < 0) ∧ ∀ i, (type i).number = i.val.toNat) ∧
    (∀ b c : BlockType, b.number = c.number ↔ b = c) ∧
    (∀ b c : BlockType, Binary.toBytes b <+: Binary.toBytes c ↔ b = c) ∧
    ∀ i, (Binary.toBytes (type i)).length ≤ 5 ∧
      (Binary.toBytes (type i)).head? ≠ some 0x40 ∧
      ∀ t : ValType, (Binary.toBytes (type i)).head? ≠ some t.byte := by
  refine ⟨fun b rest => ⟨readSigned_toBytes b rest, readSignedWithin_toBytes b rest⟩,
    ⟨by decide, fun t => ?_, fun i => rfl⟩, fun b c => number_inj, fun b c => toBytes_prefix_iff,
    fun i => ⟨length_toBytes_le _, ?_, fun t => ?_⟩⟩
  · obtain ⟨-, hhi⟩ := t.byte_bounds
    rw [number]
    omega
  · exact head?_toBytes_type_ne (b := empty) i rfl nofun
  · exact head?_toBytes_type_ne (b := value t) i rfl nofun

end BlockType

end WasmBuilder
