import WasmBuilder.Proofs.Leb128
import WasmBuilder.Proofs.Sink

/-!
# What the strict reader refuses

The format holds lengths and numbers of elements to 32 bits. A length beyond that is written in
full, so it rests with the reader that it is not taken for another one. The strict reader has two
reasons to refuse a number: it takes more bytes than its bits need, or its last byte has bits beyond
them.

Neither has to be looked at on its own. What the strict reader takes is what the lenient reader
takes from the same bytes, as long as the number fits in the bits and the bytes are not too many
(`Leb128.readUnsignedBelow_eq_some_iff`). The lenient reader gives back the length that was written,
so the strict one gives back that length or nothing.
-/

namespace WasmBuilder

namespace Leb128

/-- The bytes that a number of so many bits may take up: one for every seven bits begun. -/
def maxBytes (bits : Nat) : Nat := (bits + 6) / 7

theorem maxBytes_of_le {bits : Nat} (hpos : 0 < bits) (h : bits ≤ 7) : maxBytes bits = 1 := by
  unfold maxBytes
  omega

theorem maxBytes_of_lt {bits : Nat} (h : 7 < bits) : maxBytes bits = maxBytes (bits - 7) + 1 := by
  unfold maxBytes
  omega

theorem maxBytes_pos {bits : Nat} (hpos : 0 < bits) : 0 < maxBytes bits := by
  unfold maxBytes
  omega

/-- A reader takes at least one byte. -/
theorem length_lt_of_readUnsigned {bs rest : Bytes} {n : Nat}
    (h : readUnsigned bs = some (n, rest)) : rest.length < bs.length := by
  have hle := unsignedSize_add_length_le h
  have hsize := unsignedSize_pos n
  omega

/-- **The strict reader takes what the lenient one takes, if the number fits and has no bytes too
many.** -/
theorem readUnsignedBelow_eq_some_iff {bits : Nat} (hpos : 0 < bits) {bs rest : Bytes} {n : Nat} :
    readUnsignedBelow bits bs = some (n, rest) ↔
      readUnsigned bs = some (n, rest) ∧ n < 1 <<< bits ∧
        bs.length ≤ rest.length + maxBytes bits := by
  induction bs generalizing bits n with
  | nil => simp [readUnsignedBelow, readUnsigned]
  | cons b bs ih =>
    rw [readUnsignedBelow, readUnsigned, List.length_cons]
    by_cases hlast : b.toNat < 128
    · rw [if_pos hlast, if_pos hlast]
      have hbytes := maxBytes_pos hpos
      constructor
      · intro h
        split at h
        · next hfits =>
          obtain ⟨rfl, rfl⟩ := Prod.mk.inj (Option.some.inj h)
          exact ⟨rfl, hfits, by omega⟩
        · cases h
      · rintro ⟨h, hfits, -⟩
        obtain ⟨rfl, rfl⟩ := Prod.mk.inj (Option.some.inj h)
        rw [if_pos hfits]
    · rw [if_neg hlast, if_neg hlast]
      by_cases hbits : bits ≤ 7
      · -- the bits are used up, and the lenient reader would take a byte too many
        rw [if_pos hbits, maxBytes_of_le hpos hbits]
        refine iff_of_false (Option.some_ne_none _).symm ?_
        rintro ⟨h, -, hlength⟩
        obtain ⟨⟨k, tail⟩, hk, heq⟩ := Option.map_eq_some_iff.mp h
        obtain ⟨-, rfl⟩ := Prod.mk.inj heq
        have hlt := length_lt_of_readUnsigned hk
        omega
      · rw [if_neg hbits, maxBytes_of_lt (by omega)]
        have hpow : 1 <<< bits = 128 * 1 <<< (bits - 7) := one_shiftLeft_eq_mul (by omega)
        have hb := b.toNat_lt
        constructor
        · intro h
          obtain ⟨⟨k, tail⟩, hk, heq⟩ := Option.map_eq_some_iff.mp h
          obtain ⟨rfl, rfl⟩ := Prod.mk.inj heq
          obtain ⟨hread, hfits, hlength⟩ := (ih (by omega)).mp hk
          exact ⟨by rw [hread]; rfl, by omega, by omega⟩
        · rintro ⟨h, hfits, hlength⟩
          obtain ⟨⟨k, tail⟩, hk, heq⟩ := Option.map_eq_some_iff.mp h
          obtain ⟨rfl, rfl⟩ := Prod.mk.inj heq
          rw [(ih (by omega)).mpr ⟨hk, by omega, by omega⟩]
          rfl

/-- A number that does not fit in the bits is refused, whatever follows it. -/
theorem readUnsignedBelow_unsigned_of_le {n bits : Nat} (hpos : 0 < bits) (rest : Bytes)
    (hn : 1 <<< bits ≤ n) : readUnsignedBelow bits (unsigned n ++ rest) = none := by
  refine Option.eq_none_iff_forall_ne_some.mpr fun ⟨k, tail⟩ h => ?_
  obtain ⟨hread, hfits, -⟩ := (readUnsignedBelow_eq_some_iff hpos).mp h
  rw [readUnsigned_unsigned] at hread
  obtain ⟨rfl, -⟩ := Prod.mk.inj (Option.some.inj hread)
  exact absurd hfits (Nat.not_lt.mpr hn)

end Leb128

/-- **A length is read back as it is or refused, and never taken for another.** Whatever a byte string
holds, writing a length to it puts the bytes of the length behind. Whatever follows them, the strict
reader of 32 bits takes a length that fits in the bits and refuses any other. That reader takes a
number if and only if it is written in five bytes at most and has no bits beyond the 32. -/
theorem Write.len_never_wraps :
    (∀ (n : Nat) (rest : Bytes),
      (∀ out : Bytes, Sink.write out (.len n) = out ++ (Write.len n).toBytes) ∧
      Leb128.readUnsignedBelow 32 ((Write.len n).toBytes ++ rest)
        = if n < UInt32.size then some (n, rest) else none) ∧
    ∀ (bs rest : Bytes) (n : Nat),
      Leb128.readUnsignedBelow 32 bs = some (n, rest) ↔
        Leb128.readUnsigned bs = some (n, rest) ∧ n < UInt32.size ∧
          bs.length ≤ rest.length + 5 := by
  refine ⟨fun n rest => ⟨fun out => LawfulSink.write_eq_bytes out (.len n), ?_⟩,
    fun bs rest n => Leb128.readUnsignedBelow_eq_some_iff (by decide)⟩
  rw [Write.toBytes]
  split
  · next h => exact Leb128.readUnsignedBelow_unsigned n 32 rest h
  · next h => exact Leb128.readUnsignedBelow_unsigned_of_le (by decide) rest (Nat.not_lt.mp h)

end WasmBuilder
