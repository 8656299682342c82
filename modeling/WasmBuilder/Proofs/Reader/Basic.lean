import WasmBuilder.Binary
import WasmBuilder.Proofs.Leb128
import WasmBuilder.Reader.Basic

/-!
# Reading back

`Reads r bs x` says that `r` takes exactly the bytes `bs` for the value `x`, whatever follows
them. Nothing marks the end of an entry, so the bytes after it stay open in every statement, and
readers are put together by `Reads.bind` alone.

A reader may bound the lengths it takes. Every length inside of `bs` is the length of a part of
`bs`, so it is enough that the length of `bs` itself is allowed. For numbers of elements this needs
that an element takes at least one byte, which holds if its reader fails on the empty list.
-/

namespace WasmBuilder

/-- Below an allowed length all lengths are allowed. -/
theorem Lengths.Allow.mono {lengths : Lengths} {m n : Nat} (h : lengths.Allow n) (hle : m ≤ n) :
    lengths.Allow m := by
  cases lengths with
  | any => trivial
  | bits b => exact Nat.lt_of_le_of_lt hle h

namespace Reader

variable {α β : Type}

/-- `r` takes exactly `bs` for `x`, whatever follows, if the length of `bs` is allowed. -/
def Reads (r : Reader α) (bs : Bytes) (x : α) : Prop :=
  ∀ (lengths : Lengths) (rest : Bytes), lengths.Allow bs.length →
    r lengths (bs ++ rest) = some (x, rest)

/-! ## Putting readers together -/

/-- The second reader goes on where the first one stopped. -/
theorem run_bind {r : Reader α} {f : α → Reader β} {lengths : Lengths} {bs rest : Bytes} {x : α}
    (h : r lengths bs = some (x, rest)) : (r >>= f) lengths bs = f x lengths rest := by
  show (r lengths bs >>= fun p => f p.1 lengths p.2) = _
  rw [h]
  rfl

theorem reads_pure (x : α) : Reads (pure x : Reader α) [] x := fun _ _ _ => rfl

theorem Reads.bind {r : Reader α} {f : α → Reader β} {bs cs : Bytes} {x : α} {y : β}
    (hr : Reads r bs x) (hf : Reads (f x) cs y) : Reads (r >>= f) (bs ++ cs) y := by
  intro lengths rest hallow
  rw [List.length_append] at hallow
  rw [List.append_assoc, run_bind (hr lengths (cs ++ rest) (hallow.mono (by omega)))]
  exact hf lengths rest (hallow.mono (by omega))

/-- The last part of a value takes no bytes: it only puts the parts together. -/
theorem Reads.bind_pure {r : Reader α} {f : α → β} {bs : Bytes} {x : α} (hr : Reads r bs x) :
    Reads (r >>= fun x => pure (f x)) bs (f x) := by
  have h := hr.bind (f := fun x => pure (f x)) (reads_pure (f x))
  rwa [List.append_nil] at h

theorem Reads.map {r : Reader α} {bs : Bytes} {x : α} (f : α → β) (hr : Reads r bs x) :
    Reads (f <$> r) bs (f x) := hr.bind_pure

/-- A value that is read from some bytes is read from the same bytes, written in another way. -/
theorem Reads.congr {r : Reader α} {bs cs : Bytes} {x : α} (hr : Reads r bs x) (h : cs = bs) :
    Reads r cs x := h ▸ hr

/-- A reader that is done with `bs` has read all of it. -/
theorem Reads.readAll {r : Reader α} {bs : Bytes} {x : α} (hr : Reads r bs x) {lengths : Lengths}
    (hallow : lengths.Allow bs.length) : r.readAll lengths bs = some x := by
  have h := hr lengths [] hallow
  rw [List.append_nil] at h
  rw [Reader.readAll, h]

/-- A reader that fails on the empty list takes at least one byte. -/
theorem Reads.ne_nil {r : Reader α} {bs : Bytes} {x : α} (hr : Reads r bs x)
    (h0 : ∀ lengths, r lengths [] = none) : bs ≠ [] := by
  rintro rfl
  have h := hr .any [] trivial
  rw [List.append_nil, h0] at h
  simp at h

/-! ## Bytes -/

theorem reads_byte (b : UInt8) : Reads byte [b] b := fun _ _ _ => rfl

theorem reads_ofOption {o : Option α} {x : α} (h : o = some x) : Reads (ofOption o) [] x := by
  subst h
  exact fun _ _ _ => rfl

/-- As many bytes as there are in front of the rest. -/
theorem take_append (bs rest : Bytes) (lengths : Lengths) :
    take bs.length lengths (bs ++ rest) = some (bs, rest) := by
  rw [take, if_pos (by rw [List.length_append]; omega), List.take_left, List.drop_left]

theorem reads_take (bs : Bytes) : Reads (take bs.length) bs bs :=
  fun lengths rest _ => take_append bs rest lengths

theorem expect_append (bs rest : Bytes) (lengths : Lengths) :
    expect bs lengths (bs ++ rest) = some ((), rest) := by
  rw [expect, run_bind (take_append bs rest lengths), if_pos rfl]
  rfl

theorem reads_expect (bs : Bytes) : Reads (expect bs) bs () :=
  fun lengths rest _ => expect_append bs rest lengths

/-- A byte that stands for a value. -/
theorem reads_code {decode : UInt8 → Option α} {b : UInt8} {x : α} (h : decode b = some x) :
    Reads (code decode) [b] x :=
  (reads_byte b).bind (reads_ofOption h)

/-! ## Lengths -/

/-- An allowed length is read back. -/
theorem length_unsigned {lengths : Lengths} {n : Nat} (h : lengths.Allow n) (rest : Bytes) :
    length lengths (Leb128.unsigned n ++ rest) = some (n, rest) := by
  cases lengths with
  | any => exact Leb128.readUnsigned_unsigned n rest
  | bits b => exact Leb128.readUnsignedBelow_unsigned n b rest h

/-- **A value with its length in front is read back.** Its own reader sees only its bytes. -/
theorem run_within {r : Reader α} {bs : Bytes} {x : α} {lengths : Lengths}
    (hallow : lengths.Allow bs.length) (h : r.readAll lengths bs = some x) (rest : Bytes) :
    (length >>= fun n => within n r) lengths (Leb128.unsigned bs.length ++ (bs ++ rest))
      = some (x, rest) := by
  rw [run_bind (length_unsigned hallow (bs ++ rest)), within,
    run_bind (take_append bs rest lengths)]
  show ofOption (r.readAll lengths bs) lengths rest = _
  rw [h]
  rfl

/-- A text is its UTF-8 form, and no other text has that form. -/
theorem fromUTF8?_ofText (s : String) : String.fromUTF8? ⟨(Bytes.ofText s).toArray⟩ = some s := by
  unfold Bytes.ofText String.fromUTF8?
  rw [Array.toArray_toList]
  show (if h : s.toByteArray.IsValidUTF8 then some (String.fromUTF8 s.toByteArray h) else none) = _
  rw [dif_pos s.isValidUTF8]
  rfl

/-- A text is read back. -/
theorem reads_name (s : String) :
    Reads name (Leb128.unsigned (Bytes.ofText s).length ++ Bytes.ofText s) s := by
  intro lengths rest hallow
  rw [List.length_append] at hallow
  rw [List.append_assoc, name, run_bind (length_unsigned (hallow.mono (by omega)) _),
    run_bind (take_append _ rest lengths)]
  exact reads_ofOption (fromUTF8?_ofText s) lengths rest (hallow.mono (by simp))

/-! ## Numbers -/

theorem reads_u32 (x : UInt32) : Reads u32 (Leb128.unsigned x.toNat) x := by
  intro lengths rest _
  rw [u32, Leb128.readUnsignedBelow_unsigned x.toNat 32 rest x.toNat_lt]
  simp

theorem reads_s32 (x : Int32) : Reads s32 (Leb128.signed x.toInt) x := by
  intro lengths rest _
  rw [s32, Leb128.readSignedWithin_signed x.toInt 32 rest x.le_toInt x.toInt_lt]
  simp

theorem reads_s64 (x : Int64) : Reads s64 (Leb128.signed x.toInt) x := by
  intro lengths rest _
  rw [s64, Leb128.readSignedWithin_signed x.toInt 64 rest x.le_toInt x.toInt_lt]
  simp

/-- Digits of base 256 give back the number that they were taken from. -/
theorem ofLittleEndian_littleEndian : ∀ width n : Nat,
    ofLittleEndian (Bytes.littleEndian width n) = n % 1 <<< (8 * width)
  | 0, n => by simp [Bytes.littleEndian, ofLittleEndian, Nat.mod_one]
  | width + 1, n => by
    have ih := ofLittleEndian_littleEndian width (n / 256)
    have hpow : 1 <<< (8 * (width + 1)) = 256 * 1 <<< (8 * width) := by
      rw [Nat.mul_succ, Nat.shiftLeft_add, Nat.shiftLeft_eq _ 8, Nat.mul_comm]
    rw [ofLittleEndian] at ih
    rw [Bytes.littleEndian, ofLittleEndian, List.foldr_cons, ih,
      Leb128.toNat_ofNat_lt (Nat.mod_lt n (by decide)), hpow, Nat.mod_mul]

theorem reads_f32 (x : F32) : Reads f32 x.toBytes x := by
  have hlen : x.toBytes.length = 4 := Bytes.length_littleEndian 4 x.bits.toNat
  have hlt : x.bits.toNat < 1 <<< (8 * 4) := x.bits.toNat_lt
  have h := (reads_take x.toBytes).bind_pure (f := fun bs => F32.mk (.ofNat (ofLittleEndian bs)))
  rwa [hlen, F32.toBytes, ofLittleEndian_littleEndian, Nat.mod_eq_of_lt hlt,
    UInt32.ofNat_toNat] at h

theorem reads_f64 (x : F64) : Reads f64 x.toBytes x := by
  have hlen : x.toBytes.length = 8 := Bytes.length_littleEndian 8 x.bits.toNat
  have hlt : x.bits.toNat < 1 <<< (8 * 8) := x.bits.toNat_lt
  have h := (reads_take x.toBytes).bind_pure (f := fun bs => F64.mk (.ofNat (ofLittleEndian bs)))
  rwa [hlen, F64.toBytes, ofLittleEndian_littleEndian, Nat.mod_eq_of_lt hlt,
    UInt64.ofNat_toNat] at h

theorem reads_bool (b : Bool) : Reads bool [boolByte b] b := by
  cases b <;> exact reads_code rfl

/-! ## Repetition -/

/-- The elements of a list, read one after the other. -/
theorem reads_times {r : Reader β} {enc : α → Bytes} {f : α → β} : ∀ (xs : List α),
    (∀ x ∈ xs, Reads r (enc x) (f x)) → Reads (times xs.length r) (xs.flatMap enc) (xs.map f)
  | [], _ => reads_pure []
  | x :: xs, h =>
    (h x List.mem_cons_self).bind
      (reads_times xs fun y hy => h y (List.mem_cons_of_mem x hy)).bind_pure

/-- A list of things that take at least one byte each is no longer than its bytes. -/
theorem length_le_length_flatMap {enc : α → Bytes} : ∀ (xs : List α),
    (∀ x ∈ xs, enc x ≠ []) → xs.length ≤ (xs.flatMap enc).length
  | [], _ => Nat.le_refl 0
  | x :: xs, h => by
    have ih := length_le_length_flatMap xs fun y hy => h y (List.mem_cons_of_mem x hy)
    have hx := List.length_pos_iff.mpr (h x List.mem_cons_self)
    rw [List.length_cons, List.flatMap_cons, List.length_append]
    omega

/-- **A list is read back if each of its elements is.** -/
theorem reads_list {r : Reader β} {enc : α → Bytes} {f : α → β} (xs : List α)
    (h0 : ∀ lengths, r lengths [] = none) (h : ∀ x ∈ xs, Reads r (enc x) (f x)) :
    Reads (list r) (Leb128.unsigned xs.length ++ xs.flatMap enc) (xs.map f) := by
  intro lengths rest hallow
  have hle := length_le_length_flatMap xs fun x hx => (h x hx).ne_nil h0
  rw [List.length_append] at hallow
  rw [List.append_assoc, list, run_bind (length_unsigned (hallow.mono (by omega)) _)]
  exact reads_times xs h lengths rest (hallow.mono (by omega))

/-- Elements without a number in front, when the reader knows how many there are. -/
theorem reads_vector {r : Reader α} {enc : α → Bytes} (h : ∀ x, Reads r (enc x) x) :
    ∀ {n : Nat} (v : Vector α n), Reads (vector n r) (v.toList.flatMap enc) v
  | 0, v => by
    rw [show v = #v[] from Vector.eq_empty]
    exact reads_pure _
  | n + 1, v => by
    have hv : Reads (vector (n + 1) r) (v.pop.toList.flatMap enc ++ enc v.back)
        (v.pop.push v.back) :=
      (reads_vector h v.pop).bind (h v.back).bind_pure
    have hlist : v.toList = v.pop.toList ++ [v.back] := by
      rw [← Vector.toList_push, Vector.push_pop_back]
    rw [Vector.push_pop_back] at hv
    exact hv.congr (by rw [hlist, List.flatMap_append, List.flatMap_singleton])

end Reader

end WasmBuilder
