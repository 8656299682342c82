import WasmBuilder.Leb128.Read

/-!
# Strict readers of LEB128, and shortest forms

The strict readers of the binary format take a number in its shortest form whenever it fits in
the bits they are given. Each byte uses up seven bits, so the induction is on the written number
with the bits left open: a number that takes another byte has at least eight bits.

The lenient reader takes longer forms as well, which end in groups of zeros. That what is written
is the shortest form is therefore said in terms of that reader: no other bytes that it takes for
the number are fewer.
-/

namespace WasmBuilder.Leb128

/-- Seven more bits hold 128 times as many numbers. -/
theorem one_shiftLeft_eq_mul {bits : Nat} (h : 7 ≤ bits) :
    1 <<< bits = 128 * 1 <<< (bits - 7) := by
  obtain ⟨k, rfl⟩ := Nat.exists_eq_add_of_le' h
  rw [Nat.add_sub_cancel, Nat.shiftLeft_add, Nat.shiftLeft_eq _ 7, Nat.mul_comm]

/-- More bits hold more numbers. -/
theorem one_shiftLeft_mono {a b : Nat} (h : a ≤ b) : 1 <<< a ≤ 1 <<< b := by
  rw [Nat.one_shiftLeft, Nat.one_shiftLeft]
  exact Nat.pow_le_pow_right (by decide) h

/-- Seven bits hold no number that takes more than one byte. -/
theorem seven_lt_of_le_of_lt {bits n : Nat} (h : 128 ≤ n) (hn : n < 1 <<< bits) : 7 < bits := by
  refine Nat.lt_of_not_le fun hle => ?_
  exact absurd (Nat.lt_of_lt_of_le hn (one_shiftLeft_mono hle)) (Nat.not_lt.mpr h)

/-- **An unsigned number that fits is read back, whatever follows it.** -/
theorem readUnsignedBelow_unsigned (n bits : Nat) (rest : Bytes) (hn : n < 1 <<< bits) :
    readUnsignedBelow bits (unsigned n ++ rest) = some (n, rest) := by
  fun_induction unsigned n generalizing bits with
  | case1 n h =>
    have hb := toNat_ofNat_lt (show n < 256 by omega)
    rw [List.cons_append, List.nil_append, readUnsignedBelow, hb, if_pos h, if_pos hn]
  | case2 n h ih =>
    have hb := toNat_ofNat_lt (show n % 128 + 128 < 256 by omega)
    have hbits : 7 < bits := seven_lt_of_le_of_lt (by omega) hn
    have hdiv : n / 128 < 1 <<< (bits - 7) := by
      rw [one_shiftLeft_eq_mul (by omega)] at hn
      omega
    rw [List.cons_append, readUnsignedBelow, hb, if_neg (by omega), if_neg (by omega),
      ih (bits - 7) hdiv]
    exact congrArg (fun y => some (y, rest)) (by omega)

/-- **A signed number that fits is read back, whatever follows it.** -/
theorem readSignedWithin_signed (x : Int) (bits : Nat) (rest : Bytes)
    (hlo : -(1 <<< (bits - 1) : Nat) ≤ x) (hhi : x < (1 <<< (bits - 1) : Nat)) :
    readSignedWithin bits (signed x ++ rest) = some (x, rest) := by
  fun_induction signed x generalizing bits with
  | case1 x h =>
    have hb := toNat_ofNat_lt (show (x % 128).toNat < 256 by omega)
    rw [List.cons_append, List.nil_append, readSignedWithin, hb]
    -- the sign of `x` decides which half of the one-byte range its group falls in
    by_cases hx : 0 ≤ x
    · rw [if_pos (by omega), if_pos (by omega)]
      exact congrArg (fun y => some (y, rest)) (by omega)
    · rw [if_neg (by omega), if_pos (by omega), if_pos (by omega)]
      exact congrArg (fun y => some (y, rest)) (by omega)
  | case2 x h ih =>
    have hb := toNat_ofNat_lt (show (x % 128).toNat + 128 < 256 by omega)
    have hbits : 7 < bits := by
      refine Nat.lt_of_not_le fun hle => h ?_
      have hpow : 1 <<< (bits - 1) ≤ 1 <<< 6 := one_shiftLeft_mono (by omega)
      rw [show 1 <<< 6 = 64 from rfl] at hpow
      omega
    have hpow : 1 <<< (bits - 1) = 128 * 1 <<< (bits - 7 - 1) := by
      rw [one_shiftLeft_eq_mul (show 7 ≤ bits - 1 by omega), Nat.sub_right_comm]
    rw [List.cons_append, readSignedWithin, hb, if_neg (by omega), if_neg (by omega),
      if_neg (by omega), ih (bits - 7) (by omega) (by omega)]
    exact congrArg (fun y => some (y, rest)) (by omega)

/-! ## The first byte of what is read -/

/-- A number is read from its first byte alone, or that byte is a group in front of another number.
-/
theorem readUnsigned_cons {b : UInt8} {bs rest : Bytes} {n : Nat}
    (h : readUnsigned (b :: bs) = some (n, rest)) :
    (unsigned n = [b] ∧ rest = bs) ∨
      (128 ≤ b.toNat ∧ ∃ k, readUnsigned bs = some (k, rest) ∧ n = b.toNat - 128 + 128 * k) := by
  rw [readUnsigned] at h
  split at h
  · next hlast =>
    obtain ⟨rfl, rfl⟩ := Prod.mk.inj (Option.some.inj h)
    exact Or.inl ⟨by rw [unsigned, if_pos hlast, UInt8.ofNat_toNat], rfl⟩
  · next hmore =>
    obtain ⟨⟨k, rest'⟩, hk, heq⟩ := Option.map_eq_some_iff.mp h
    obtain ⟨rfl, rfl⟩ := Prod.mk.inj heq
    exact Or.inr ⟨Nat.not_lt.mp hmore, k, hk, rfl⟩

/-- The same of a signed number. -/
theorem readSigned_cons {b : UInt8} {bs rest : Bytes} {x : Int}
    (h : readSigned (b :: bs) = some (x, rest)) :
    (signed x = [b] ∧ rest = bs) ∨
      (128 ≤ b.toNat ∧ ∃ y, readSigned bs = some (y, rest) ∧
        x = (b.toNat : Int) - 128 + 128 * y) := by
  have hone : -64 ≤ x ∧ x < 64 → (x % 128).toNat = b.toNat → signed x = [b] := by
    intro hrange hbyte
    rw [signed, if_pos hrange, hbyte, UInt8.ofNat_toNat]
  rw [readSigned] at h
  split at h
  · obtain ⟨rfl, rfl⟩ := Prod.mk.inj (Option.some.inj h)
    exact Or.inl ⟨hone (by omega) (by omega), rfl⟩
  · split at h
    · obtain ⟨rfl, rfl⟩ := Prod.mk.inj (Option.some.inj h)
      exact Or.inl ⟨hone (by omega) (by omega), rfl⟩
    · next hmore =>
      obtain ⟨⟨y, rest'⟩, hy, heq⟩ := Option.map_eq_some_iff.mp h
      obtain ⟨rfl, rfl⟩ := Prod.mk.inj heq
      exact Or.inr ⟨Nat.not_lt.mp hmore, y, hy, rfl⟩

/-! ## Shortest forms -/

/-- The bytes are a form of the number, and no form of it has fewer bytes. -/
structure IsShortest (bs : Bytes) (n : Nat) : Prop where
  reads : readUnsigned bs = some (n, [])
  length_le : ∀ other, readUnsigned other = some (n, []) → bs.length ≤ other.length

/-- The shortest form of a number takes at least one byte. -/
theorem unsignedSize_pos (n : Nat) : 0 < unsignedSize n := by
  rw [unsignedSize]
  split <;> omega

/-- A number takes up at least as many bytes as its shortest form has. -/
theorem unsignedSize_add_length_le {bs rest : Bytes} {n : Nat}
    (h : readUnsigned bs = some (n, rest)) : unsignedSize n + rest.length ≤ bs.length := by
  induction bs generalizing n with
  | nil => cases h
  | cons b bs ih =>
    rcases readUnsigned_cons h with ⟨hone, rfl⟩ | ⟨hmore, k, hk, rfl⟩
    · refine Nat.le_of_eq ?_
      rw [← length_unsigned, hone, List.length_singleton, List.length_cons, Nat.add_comm]
    · have hle := ih hk
      have hdiv : (b.toNat - 128 + 128 * k) / 128 = k := by
        have hb := b.toNat_lt
        omega
      rw [unsignedSize, hdiv, List.length_cons]
      -- groups of zeros at the end are bytes that the shortest form does without
      split <;> omega

/-- **An unsigned number is written in its shortest form.** -/
theorem isShortest_unsigned (n : Nat) : IsShortest (unsigned n) n where
  reads := by
    have h := readUnsigned_unsigned n []
    rwa [List.append_nil] at h
  length_le other h := by
    rw [length_unsigned]
    exact unsignedSize_add_length_le h

end WasmBuilder.Leb128
