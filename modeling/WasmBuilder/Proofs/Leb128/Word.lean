import WasmBuilder.Leb128

/-!
# LEB128 on machine words

`unsigned` and `signed` divide exact integers. A machine has words in their place: a round of its
loop masks out the lowest seven bits, shifts the word by seven and decides from what remains whether
the byte it has is the last one. A signed word is shifted with its sign, so what remains ends up as
zero or as all ones, and bit 6 of the byte has to agree with it.

Nothing in such a loop says that it ends. `LoopWrites round x bs` therefore says both: the loop,
started on the word `x`, comes to its end, and `bs` is what it has written by then. For words of
seven bits or more this holds of exactly the bytes of the form of the word's value.
-/

namespace WasmBuilder.Leb128

/-! ## Loops -/

/-- What one round of a loop does. -/
structure Round (σ : Type) where
  /-- The byte that is written. -/
  byte : UInt8
  /-- What the next round starts from; `none` after the last round. -/
  next : Option σ

/-- The loop that repeats `round` ends, and writes the given bytes. -/
inductive LoopWrites {σ : Type} (round : σ → Round σ) : σ → Bytes → Prop where
  | last {s : σ} {b : UInt8} (h : round s = ⟨b, none⟩) : LoopWrites round s [b]
  | more {s t : σ} {b : UInt8} {bs : Bytes} (h : round s = ⟨b, some t⟩)
      (hrest : LoopWrites round t bs) : LoopWrites round s (b :: bs)

/-- A loop writes the same bytes whenever it is started from the same place. -/
theorem LoopWrites.unique {σ : Type} {round : σ → Round σ} {s : σ} {bs cs : Bytes}
    (hbs : LoopWrites round s bs) (hcs : LoopWrites round s cs) : bs = cs := by
  induction hbs generalizing cs with
  | last h =>
    cases hcs with
    | last h' =>
      cases h.symm.trans h'
      rfl
    | more h' _ => cases h.symm.trans h'
  | more h _ ih =>
    cases hcs with
    | last h' => cases h.symm.trans h'
    | more h' hrest =>
      cases h.symm.trans h'
      rw [ih hrest]

theorem LoopWrites.iff_eq {σ : Type} {round : σ → Round σ} {s : σ} {bs cs : Bytes}
    (hbs : LoopWrites round s bs) : LoopWrites round s cs ↔ cs = bs := by
  constructor
  · intro hcs
    exact hcs.unique hbs
  · rintro rfl
    exact hbs

/-! ## Rounds -/

section Rounds

variable {w : Nat}

/-- The lowest seven bits of a word. -/
def lowGroup (x : BitVec w) : UInt8 := UInt8.ofBitVec ((x &&& 0x7f#w).setWidth 8)

/-- A round on an unsigned word. -/
def unsignedRound (x : BitVec w) : Round (BitVec w) :=
  let rest := x >>> 7
  if rest = 0#w then ⟨lowGroup x, none⟩ else ⟨lowGroup x ||| 0x80, some rest⟩

/-- A round on a signed word. -/
def signedRound (x : BitVec w) : Round (BitVec w) :=
  let group := lowGroup x
  let rest := x.sshiftRight 7
  if rest = 0#w ∧ group &&& 0x40 = 0x00 ∨ rest = BitVec.allOnes w ∧ group &&& 0x40 = 0x40 then
    ⟨group, none⟩
  else ⟨group ||| 0x80, some rest⟩

/-! ## Bits as numbers -/

theorem toNat_ushiftRight_seven (x : BitVec w) : (x >>> 7).toNat = x.toNat / 128 := by
  rw [BitVec.toNat_ushiftRight, Nat.shiftRight_eq_div_pow]

theorem toInt_sshiftRight_seven (x : BitVec w) : (x.sshiftRight 7).toInt = x.toInt / 128 := by
  rw [BitVec.toInt_sshiftRight, Int.shiftRight_eq_div_pow]
  rfl

/-- The lowest seven bits do not depend on how the word is read. -/
theorem toNat_toInt_emod (hw : 7 ≤ w) (x : BitVec w) :
    (x.toInt % 128).toNat = x.toNat % 128 := by
  obtain ⟨k, rfl⟩ := Nat.exists_eq_add_of_le hw
  rw [BitVec.toInt_eq_toNat_cond]
  split
  · omega
  · rw [Nat.pow_add]
    omega

theorem toNat_lowGroup (hw : 7 ≤ w) (x : BitVec w) : (lowGroup x).toNat = x.toNat % 128 := by
  have hpow : 2 ^ 7 ≤ 2 ^ w := Nat.pow_le_pow_right (by decide) hw
  have hmask : 127 % 2 ^ w = 2 ^ 7 - 1 := Nat.mod_eq_of_lt (by omega)
  show ((x &&& 0x7f#w).setWidth 8).toNat = _
  rw [BitVec.toNat_setWidth, BitVec.toNat_and, BitVec.toNat_ofNat, hmask,
    Nat.and_two_pow_sub_one_eq_mod]
  omega

theorem lowGroup_eq (hw : 7 ≤ w) (x : BitVec w) : lowGroup x = UInt8.ofNat (x.toNat % 128) := by
  rw [← toNat_lowGroup hw, UInt8.ofNat_toNat]

/-- Setting the high bit of a group adds 128. -/
theorem lowGroup_or_high (hw : 7 ≤ w) (x : BitVec w) :
    lowGroup x ||| 0x80 = UInt8.ofNat (x.toNat % 128 + 128) := by
  have hgroup := toNat_lowGroup hw x
  have hor : (lowGroup x ||| 0x80).toNat = (lowGroup x).toNat + 128 := by
    rw [UInt8.toNat_or, show (0x80 : UInt8).toNat = 2 ^ 7 * 1 from rfl, Nat.or_comm,
      ← Nat.two_pow_add_eq_or_of_lt (show (lowGroup x).toNat < 2 ^ 7 by omega), Nat.add_comm]
  rw [← hgroup, ← hor, UInt8.ofNat_toNat]

/-- What holds of the 256 bytes in turn holds of every byte. -/
theorem forall_byte {P : UInt8 → Prop} (h : ∀ n < 256, P (UInt8.ofNat n)) (b : UInt8) : P b := by
  have hb := h b.toNat b.toNat_lt
  rwa [UInt8.ofNat_toNat] at hb

theorem and_sign_eq_zero_iff {b : UInt8} : b &&& 0x40 = 0x00 ↔ b.toNat % 128 < 64 :=
  forall_byte (P := fun b => b &&& 0x40 = 0x00 ↔ b.toNat % 128 < 64) (by decide +kernel) b

theorem and_sign_eq_sign_iff {b : UInt8} : b &&& 0x40 = 0x40 ↔ 64 ≤ b.toNat % 128 :=
  forall_byte (P := fun b => b &&& 0x40 = 0x40 ↔ 64 ≤ b.toNat % 128) (by decide +kernel) b

/-! ## Rounds as divisions -/

theorem unsignedRound_eq (hw : 7 ≤ w) (x : BitVec w) :
    unsignedRound x
      = if x.toNat < 128 then ⟨UInt8.ofNat x.toNat, none⟩
        else ⟨UInt8.ofNat (x.toNat % 128 + 128), some (x >>> 7)⟩ := by
  have hstop : x >>> 7 = 0#w ↔ x.toNat < 128 := by
    rw [← BitVec.toNat_inj, toNat_ushiftRight_seven, BitVec.toNat_ofNat, Nat.zero_mod]
    omega
  unfold unsignedRound
  by_cases h : x.toNat < 128
  · rw [if_pos (hstop.mpr h), if_pos h, lowGroup_eq hw, Nat.mod_eq_of_lt h]
  · rw [if_neg (mt hstop.mp h), if_neg h, lowGroup_or_high hw]

/-- The sign that remains agrees with bit 6 of the group if and only if the word fits in one group.
-/
theorem signed_stops_iff (hw : 7 ≤ w) (x : BitVec w) :
    (x.sshiftRight 7 = 0#w ∧ lowGroup x &&& 0x40 = 0x00 ∨
      x.sshiftRight 7 = BitVec.allOnes w ∧ lowGroup x &&& 0x40 = 0x40) ↔
    -64 ≤ x.toInt ∧ x.toInt < 64 := by
  have hgroup := toNat_lowGroup hw x
  rw [← toNat_toInt_emod hw] at hgroup
  rw [and_sign_eq_zero_iff, and_sign_eq_sign_iff, hgroup, ← BitVec.toInt_inj, ← BitVec.toInt_inj,
    toInt_sshiftRight_seven, BitVec.toInt_zero, BitVec.toInt_allOnes, if_pos (by omega)]
  omega

theorem signedRound_eq (hw : 7 ≤ w) (x : BitVec w) :
    signedRound x
      = if -64 ≤ x.toInt ∧ x.toInt < 64 then ⟨UInt8.ofNat (x.toInt % 128).toNat, none⟩
        else ⟨UInt8.ofNat ((x.toInt % 128).toNat + 128), some (x.sshiftRight 7)⟩ := by
  have hstop := signed_stops_iff hw x
  unfold signedRound
  rw [toNat_toInt_emod hw]
  by_cases h : -64 ≤ x.toInt ∧ x.toInt < 64
  · rw [if_pos (hstop.mpr h), if_pos h, lowGroup_eq hw]
  · rw [if_neg (mt hstop.mp h), if_neg h, lowGroup_or_high hw]

/-! ## Whole loops -/

/-- **The loop on an unsigned word ends, and writes the form of its value.** -/
theorem loopWrites_unsigned (hw : 7 ≤ w) (x : BitVec w) :
    LoopWrites unsignedRound x (unsigned x.toNat) := by
  -- the induction is on the number, and the word is any that has it as its value
  generalize hn : x.toNat = n
  fun_induction unsigned n generalizing x with
  | case1 n h =>
    subst hn
    exact .last (by rw [unsignedRound_eq hw, if_pos h])
  | case2 n h ih =>
    subst hn
    exact .more (by rw [unsignedRound_eq hw, if_neg h]) (ih (x >>> 7) (toNat_ushiftRight_seven x))

/-- **The loop on a signed word ends, and writes the form of its value.** -/
theorem loopWrites_signed (hw : 7 ≤ w) (x : BitVec w) :
    LoopWrites signedRound x (signed x.toInt) := by
  generalize hv : x.toInt = v
  fun_induction signed v generalizing x with
  | case1 v h =>
    subst hv
    exact .last (by rw [signedRound_eq hw, if_pos h])
  | case2 v h ih =>
    subst hv
    exact .more (by rw [signedRound_eq hw, if_neg h])
      (ih (x.sshiftRight 7) (toInt_sshiftRight_seven x))

end Rounds

end WasmBuilder.Leb128
