import WasmBuilder.Proofs.Leb128
import WasmBuilder.Proofs.Leb128.Word

/-!
# Minimal forms

The readers take any number of groups, so a number has many forms. Behind an unsigned form there is
room for groups of zeros, and behind a signed form for groups that repeat its sign. A form is
minimal if it does not end in such a group, which can be seen from its last two bytes.

What `unsigned` and `signed` write is minimal, and a number has no other minimal form. Both are
shown by taking the first byte off: a number with a byte in front of its form is written with that
byte in front, unless the two together fit in one group, and then the form behind the byte is the
one group that a minimal form may not end in.
-/

namespace WasmBuilder.Leb128

/-! ## Numbers of bytes -/

theorem unsigned_ne_nil (n : Nat) : unsigned n ≠ [] := by
  rw [unsigned]
  split <;> exact List.cons_ne_nil _ _

theorem signed_ne_nil (x : Int) : signed x ≠ [] := by
  rw [signed]
  split <;> exact List.cons_ne_nil _ _

/-- A number of seven bits for each byte needs no more bytes than that. -/
theorem length_unsigned_le {n : Nat} (k : Nat) (h : n < 1 <<< (7 * k + 7)) :
    (unsigned n).length ≤ k + 1 := by
  fun_induction unsigned n generalizing k with
  | case1 n _ => exact Nat.le_add_left 1 k
  | case2 n hn ih =>
    cases k with
    | zero => exact absurd h hn
    | succ k =>
      have hpow : 1 <<< (7 * (k + 1) + 7) = 128 * 1 <<< (7 * k + 7) :=
        one_shiftLeft_eq_mul (by omega)
      rw [List.length_cons]
      exact Nat.succ_le_succ (ih k (by omega))

/-- The same of a signed number, where one of the bits is the sign. -/
theorem length_signed_le {x : Int} (k : Nat) (hlo : -(1 <<< (7 * k + 6) : Nat) ≤ x)
    (hhi : x < (1 <<< (7 * k + 6) : Nat)) : (signed x).length ≤ k + 1 := by
  fun_induction signed x generalizing k with
  | case1 x h => exact Nat.le_add_left 1 k
  | case2 x h ih =>
    cases k with
    | zero => exact absurd ⟨hlo, hhi⟩ h
    | succ k =>
      have hpow : 1 <<< (7 * (k + 1) + 6) = 128 * 1 <<< (7 * k + 6) :=
        one_shiftLeft_eq_mul (by omega)
      rw [List.length_cons]
      exact Nat.succ_le_succ (ih k (by omega) (by omega))

/-! ## A byte in front of a form -/

theorem unsigned_cons {b : UInt8} {k : Nat} (hb : 128 ≤ b.toNat) (hk : 0 < k) :
    unsigned (b.toNat - 128 + 128 * k) = b :: unsigned k := by
  have hlt := b.toNat_lt
  have hmod : (b.toNat - 128 + 128 * k) % 128 + 128 = b.toNat := by omega
  have hdiv : (b.toNat - 128 + 128 * k) / 128 = k := by omega
  rw [unsigned, if_neg (by omega), hmod, hdiv, UInt8.ofNat_toNat]

theorem signed_cons {b : UInt8} {y : Int} (hb : 128 ≤ b.toNat)
    (h : ¬(-64 ≤ (b.toNat : Int) - 128 + 128 * y ∧ (b.toNat : Int) - 128 + 128 * y < 64)) :
    signed ((b.toNat : Int) - 128 + 128 * y) = b :: signed y := by
  have hlt := b.toNat_lt
  have hmod : (((b.toNat : Int) - 128 + 128 * y) % 128).toNat + 128 = b.toNat := by omega
  have hdiv : ((b.toNat : Int) - 128 + 128 * y) / 128 = y := by omega
  rw [signed, if_neg h, hmod, hdiv, UInt8.ofNat_toNat]

/-- A signed number takes up at least as many bytes as are written for it. -/
theorem length_signed_add_length_le {bs rest : Bytes} {x : Int}
    (h : readSigned bs = some (x, rest)) : (signed x).length + rest.length ≤ bs.length := by
  induction bs generalizing x with
  | nil => cases h
  | cons b bs ih =>
    rcases readSigned_cons h with ⟨hone, rfl⟩ | ⟨hmore, y, hy, rfl⟩
    · refine Nat.le_of_eq ?_
      rw [hone, List.length_singleton, List.length_cons, Nat.add_comm]
    · have hle := ih hy
      by_cases hshort : -64 ≤ (b.toNat : Int) - 128 + 128 * y ∧ (b.toNat : Int) - 128 + 128 * y < 64
      · -- the bytes behind `b` only repeat the sign, and the shortest form does without them
        rw [signed, if_pos hshort, List.length_singleton, List.length_cons]
        omega
      · rw [signed_cons hmore hshort, List.length_cons, List.length_cons]
        omega

/-! ## Unsigned forms -/

/-- Whether an unsigned form does not end in a group of zeros that it could do without. -/
def isMinimalUnsigned (bs : Bytes) : Bool := bs.length == 1 || bs.getLast? != some 0x00

theorem isMinimalUnsigned_cons_cons (b c : UInt8) (bs : Bytes) :
    isMinimalUnsigned (b :: c :: bs) = ((c :: bs).getLast? != some 0x00) := by
  simp [isMinimalUnsigned, List.getLast?_cons_cons]

theorem getLast?_unsigned_ne {n : Nat} (h : 0 < n) : (unsigned n).getLast? ≠ some 0x00 := by
  fun_induction unsigned n with
  | case1 n hn =>
    have hb := toNat_ofNat_lt (show n < 256 by omega)
    intro hzero
    have hbyte : UInt8.ofNat n = 0x00 := Option.some.inj hzero
    rw [hbyte] at hb
    exact absurd hb.symm (Nat.ne_of_gt h)
  | case2 n hn ih =>
    have hne := ih (by omega)
    obtain ⟨c, bs, hcons⟩ := List.exists_cons_of_ne_nil (unsigned_ne_nil (n / 128))
    rw [hcons] at hne ⊢
    rwa [List.getLast?_cons_cons]

theorem isMinimalUnsigned_unsigned (n : Nat) : isMinimalUnsigned (unsigned n) = true := by
  by_cases h : n < 128
  · rw [unsigned, if_pos h]
    rfl
  · have hlast := getLast?_unsigned_ne (show 0 < n by omega)
    rw [isMinimalUnsigned, bne_iff_ne.mpr hlast, Bool.or_true]

theorem eq_unsigned_of_isMinimalUnsigned {bs : Bytes} {n : Nat}
    (h : readUnsigned bs = some (n, [])) (hmin : isMinimalUnsigned bs = true) :
    bs = unsigned n := by
  induction bs generalizing n with
  | nil => cases h
  | cons b bs ih =>
    rcases readUnsigned_cons h with ⟨hone, rfl⟩ | ⟨hmore, k, hk, rfl⟩
    · exact hone.symm
    · cases bs with
      | nil => cases hk
      | cons c bs =>
        rw [isMinimalUnsigned_cons_cons] at hmin
        have hrest : c :: bs = unsigned k :=
          ih hk (by rw [isMinimalUnsigned, hmin, Bool.or_true])
        have hpos : 0 < k := by
          refine Nat.pos_of_ne_zero ?_
          rintro rfl
          rw [hrest, show unsigned 0 = [0x00] by decide +kernel] at hmin
          cases hmin
        rw [unsigned_cons hmore hpos, hrest]

/-- **An unsigned number has one minimal form, the one that is written.** The loop on words of 64
bits ends with it, in one to ten bytes, and in at most five for a number of 32 bits; its length is
the size that is computed beforehand. Whatever follows, it is read back, and nothing shorter is read
as the same number. -/
theorem unsigned_is_the_minimal_form (v : UInt64) :
    (∀ out, LoopWrites unsignedRound v.toBitVec out ↔ out = unsigned v.toNat) ∧
    (∀ rest, readUnsigned (unsigned v.toNat ++ rest) = some (v.toNat, rest)) ∧
    unsignedSize v.toNat = (unsigned v.toNat).length ∧
    1 ≤ (unsigned v.toNat).length ∧ (unsigned v.toNat).length ≤ 10 ∧
    (v.toNat < UInt32.size → (unsigned v.toNat).length ≤ 5) ∧
    (∀ other rest, readUnsigned other = some (v.toNat, rest) →
      (unsigned v.toNat).length + rest.length ≤ other.length) ∧
    ∀ other, readUnsigned other = some (v.toNat, []) ∧ isMinimalUnsigned other = true ↔
      other = unsigned v.toNat := by
  have hread : ∀ rest, readUnsigned (unsigned v.toNat ++ rest) = some (v.toNat, rest) :=
    fun rest => readUnsigned_unsigned v.toNat rest
  have hloop := loopWrites_unsigned (show 7 ≤ 64 by decide) v.toBitVec
  refine ⟨fun out => hloop.iff_eq, hread, (length_unsigned _).symm,
    List.length_pos_iff.mpr (unsigned_ne_nil _), ?_, fun hsmall => ?_, fun other rest h => ?_,
    fun other => ⟨?_, ?_⟩⟩
  · have hv := v.toNat_lt
    exact length_unsigned_le 9 (Nat.lt_of_lt_of_le hv (by decide))
  · exact length_unsigned_le 4 (Nat.lt_of_lt_of_le hsmall (by decide))
  · rw [length_unsigned]
    exact unsignedSize_add_length_le h
  · rintro ⟨h, hmin⟩
    exact eq_unsigned_of_isMinimalUnsigned h hmin
  · rintro rfl
    have h := hread []
    rw [List.append_nil] at h
    exact ⟨h, isMinimalUnsigned_unsigned _⟩

theorem unsigned_is_the_minimal_form_threeGroups :
    (624485 : UInt64).toNat < UInt32.size ∧ (unsigned 624485).length ≤ 5 ∧
      readUnsigned [0xe5, 0x8e, 0xa6, 0x00, 0x0b] = some (624485, [0x0b]) ∧
      (unsigned 624485).length + 1 ≤ 5 ∧
      readUnsigned [0xe5, 0x8e, 0x26] = some (624485, []) ∧
      isMinimalUnsigned [0xe5, 0x8e, 0x26] = true ∧
      [0xe5, 0x8e, 0x26] = unsigned 624485 := by
  obtain ⟨-, -, -, -, -, hsmall, hshort, hmin⟩ := unsigned_is_the_minimal_form 624485
  have hlong : readUnsigned [0xe5, 0x8e, 0xa6, 0x00, 0x0b] = some (624485, [0x0b]) := by decide
  have hform : readUnsigned [0xe5, 0x8e, 0x26] = some (624485, []) := by decide
  exact ⟨by decide, hsmall (by decide), hlong, hshort _ _ hlong, hform, by decide,
    (hmin _).mp ⟨hform, by decide⟩⟩

/-! ## Signed forms -/

/-- Whether the last byte says no more than the sign that the byte before it has. -/
def repeatsSign (before last : UInt8) : Bool :=
  last == 0x00 && before &&& 0x40 == 0x00 || last == 0x7f && before &&& 0x40 == 0x40

/-- Whether a signed form does not end in a group that only repeats its sign. -/
def isMinimalSigned : Bytes → Bool
  | [before, last] => !repeatsSign before last
  | _ :: b :: c :: rest => isMinimalSigned (b :: c :: rest)
  | _ => true

theorem isMinimalSigned_pair {b c : UInt8} : isMinimalSigned [b, c] = true ↔
    (c = 0x00 → 64 ≤ b.toNat % 128) ∧ (c = 0x7f → b.toNat % 128 < 64) := by
  simp [isMinimalSigned, repeatsSign, and_sign_eq_zero_iff, and_sign_eq_sign_iff,
    Decidable.imp_iff_not_or]

theorem isMinimalSigned_cons_cons {b c : UInt8} {bs : Bytes} (h : bs ≠ []) :
    isMinimalSigned (b :: c :: bs) = isMinimalSigned (c :: bs) := by
  cases bs with
  | nil => exact absurd rfl h
  | cons d bs => rfl

theorem isMinimalSigned_signed (x : Int) : isMinimalSigned (signed x) = true := by
  fun_induction signed x with
  | case1 x h => rfl
  | case2 x h ih =>
    rw [signed] at ih ⊢
    split
    · -- two bytes: were the second one all sign, the first would have been the last
      have hb := toNat_ofNat_lt (show (x % 128).toNat + 128 < 256 by omega)
      have hc := toNat_ofNat_lt (show (x / 128 % 128).toNat < 256 by omega)
      rw [isMinimalSigned_pair, hb, ← UInt8.toNat_inj, ← UInt8.toNat_inj, hc,
        show (0x00 : UInt8).toNat = 0 from rfl, show (0x7f : UInt8).toNat = 127 from rfl]
      omega
    · next hmore =>
      rw [if_neg hmore] at ih
      rwa [isMinimalSigned_cons_cons (signed_ne_nil _)]

theorem eq_signed_of_isMinimalSigned {bs : Bytes} {x : Int} (h : readSigned bs = some (x, []))
    (hmin : isMinimalSigned bs = true) : bs = signed x := by
  induction bs generalizing x with
  | nil => cases h
  | cons b bs ih =>
    rcases readSigned_cons h with ⟨hone, rfl⟩ | ⟨hmore, y, hy, rfl⟩
    · exact hone.symm
    · cases bs with
      | nil => cases hy
      | cons c bs =>
        have hminRest : isMinimalSigned (c :: bs) = true := by
          cases bs with
          | nil => rfl
          | cons d bs => exact hmin
        have hrest : c :: bs = signed y := ih hy hminRest
        rw [hrest] at hmin ⊢
        refine (signed_cons hmore fun hshort => ?_).symm
        have hsign : y = 0 ∧ b.toNat % 128 < 64 ∨ y = -1 ∧ 64 ≤ b.toNat % 128 := by
          have hlt := b.toNat_lt
          omega
        rcases hsign with ⟨rfl, hbit⟩ | ⟨rfl, hbit⟩
        · rw [show signed 0 = [0x00] by decide +kernel, isMinimalSigned_pair] at hmin
          exact absurd (hmin.1 rfl) (Nat.not_le.mpr hbit)
        · rw [show signed (-1) = [0x7f] by decide +kernel, isMinimalSigned_pair] at hmin
          exact absurd (hmin.2 rfl) (Nat.not_lt.mpr hbit)

/-- **A signed number has one minimal form, the one that is written.** The loop on words of 64 bits
ends with it, in one to ten bytes, and in at most five for a number of 32 bits, signed or not.
Whatever follows, it is read back, and nothing shorter is read as the same number. -/
theorem signed_is_the_minimal_form (v : Int64) :
    (∀ out, LoopWrites signedRound v.toBitVec out ↔ out = signed v.toInt) ∧
    1 ≤ (signed v.toInt).length ∧ (signed v.toInt).length ≤ 10 ∧
    ((∃ y : Int32, y.toInt = v.toInt) ∨ (∃ y : UInt32, (y.toNat : Int) = v.toInt) →
      (signed v.toInt).length ≤ 5) ∧
    (∀ rest, readSigned (signed v.toInt ++ rest) = some (v.toInt, rest)) ∧
    (∀ other rest, readSigned other = some (v.toInt, rest) →
      (signed v.toInt).length + rest.length ≤ other.length) ∧
    ∀ other, readSigned other = some (v.toInt, []) ∧ isMinimalSigned other = true ↔
      other = signed v.toInt := by
  have hread : ∀ rest, readSigned (signed v.toInt ++ rest) = some (v.toInt, rest) :=
    fun rest => readSigned_signed v.toInt rest
  have hloop := loopWrites_signed (show 7 ≤ 64 by decide) v.toBitVec
  refine ⟨fun out => hloop.iff_eq, List.length_pos_iff.mpr (signed_ne_nil _),
    ?_, fun hsmall => ?_, hread, fun other rest h => length_signed_add_length_le h,
    fun other => ⟨?_, ?_⟩⟩
  · have hpow : 1 <<< (7 * 9 + 6) = 590295810358705651712 := by decide
    have hlo := v.le_toInt
    have hhi := v.toInt_lt
    exact length_signed_le 9 (by omega) (by omega)
  · have hpow : 1 <<< (7 * 4 + 6) = 17179869184 := by decide
    rcases hsmall with ⟨y, hy⟩ | ⟨y, hy⟩
    · have hlo := y.le_toInt
      have hhi := y.toInt_lt
      exact length_signed_le 4 (by omega) (by omega)
    · have hhi := y.toNat_lt
      exact length_signed_le 4 (by omega) (by omega)
  · rintro ⟨h, hmin⟩
    exact eq_signed_of_isMinimalSigned h hmin
  · rintro rfl
    have h := hread []
    rw [List.append_nil] at h
    exact ⟨h, isMinimalSigned_signed _⟩

theorem signed_is_the_minimal_form_belowOneGroup :
    (-65 : Int32).toInt = (-65 : Int64).toInt ∧ (signed (-65)).length ≤ 5 ∧
      readSigned [0xbf, 0xff, 0x7f, 0x0b] = some (-65, [0x0b]) ∧
      (signed (-65)).length + 1 ≤ 4 ∧
      readSigned [0xbf, 0x7f] = some (-65, []) ∧ isMinimalSigned [0xbf, 0x7f] = true ∧
      [0xbf, 0x7f] = signed (-65) := by
  obtain ⟨-, -, -, hsmall, -, hshort, hmin⟩ := signed_is_the_minimal_form (-65)
  have hlong : readSigned [0xbf, 0xff, 0x7f, 0x0b] = some (-65, [0x0b]) := by decide
  have hform : readSigned [0xbf, 0x7f] = some (-65, []) := by decide
  exact ⟨by decide, hsmall (Or.inl ⟨-65, by decide⟩), hlong, hshort _ _ hlong, hform, by decide,
    (hmin _).mp ⟨hform, by decide⟩⟩

end WasmBuilder.Leb128
