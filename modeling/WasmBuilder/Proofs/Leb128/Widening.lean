import WasmBuilder.Proofs.Leb128.Word
import WasmBuilder.Proofs.Sink

/-!
# Wide words in the place of narrow ones

A number of 32 bits is widened to 64 bits before it is written, so that one loop serves both widths.
An unsigned word is widened with zeros, a signed one with its sign.

The loop on the wide word goes in step with the loop on the narrow one. In each round the two write
the same byte, and what remains of the wide word is what remains of the narrow one, widened
(`unsignedRound_setWidth`, `signedRound_signExtend`). The loops therefore end in the same round
(`LoopWrites.map`), and the bytes do not tell which of them was used.
-/

namespace WasmBuilder.Leb128

/-! ## Loops in step -/

section Map

variable {σ τ : Type}

/-- The round with what remains after it seen through `f`. -/
def Round.map (f : σ → τ) (r : Round σ) : Round τ := ⟨r.byte, r.next.map f⟩

/-- **Loops whose rounds are in step write the same bytes.** -/
theorem LoopWrites.map {round : σ → Round σ} {round' : τ → Round τ} {f : σ → τ}
    (hround : ∀ s, round' (f s) = (round s).map f) {s : σ} {bs : Bytes}
    (h : LoopWrites round s bs) : LoopWrites round' (f s) bs := by
  induction h with
  | last hlast =>
    refine .last ?_
    rw [hround, hlast]
    rfl
  | more hmore _ ih =>
    refine .more ?_ ih
    rw [hround, hmore]
    rfl

end Map

/-! ## Rounds in step -/

section Widening

variable {w v : Nat}

theorem setWidth_ushiftRight_seven (hv : w ≤ v) (x : BitVec w) :
    x.setWidth v >>> 7 = (x >>> 7).setWidth v := by
  apply BitVec.eq_of_toNat_eq
  rw [toNat_ushiftRight_seven, BitVec.toNat_setWidth_of_le hv, BitVec.toNat_setWidth_of_le hv,
    toNat_ushiftRight_seven]

theorem signExtend_sshiftRight_seven (hv : w ≤ v) (x : BitVec w) :
    (x.signExtend v).sshiftRight 7 = (x.sshiftRight 7).signExtend v := by
  apply BitVec.eq_of_toInt_eq
  rw [toInt_sshiftRight_seven, BitVec.toInt_signExtend_of_le hv, BitVec.toInt_signExtend_of_le hv,
    toInt_sshiftRight_seven]

/-- A round on an unsigned word that was widened is the round on the word itself. -/
theorem unsignedRound_setWidth (hw : 7 ≤ w) (hv : w ≤ v) (x : BitVec w) :
    unsignedRound (x.setWidth v) = (unsignedRound x).map (BitVec.setWidth v) := by
  rw [unsignedRound_eq hw, unsignedRound_eq (Nat.le_trans hw hv), BitVec.toNat_setWidth_of_le hv,
    setWidth_ushiftRight_seven hv]
  split <;> rfl

/-- A round on a signed word that was widened is the round on the word itself. Fewer than seven bits
would not do, because the group would then have bits that only the wide word has. -/
theorem signedRound_signExtend (hw : 7 ≤ w) (hv : w ≤ v) (x : BitVec w) :
    signedRound (x.signExtend v) = (signedRound x).map (BitVec.signExtend v) := by
  rw [signedRound_eq hw, signedRound_eq (Nat.le_trans hw hv), BitVec.toInt_signExtend_of_le hv,
    signExtend_sshiftRight_seven hv]
  split <;> rfl

end Widening

/-! ## Words of 32 bits -/

/-- **Widening leaves no trace in the bytes.** What is written for a word of 32 bits, unsigned or
signed, goes to the end of a byte string. The loop on words of 64 bits, started on the widened word,
ends and writes the same bytes, and so does the same loop on words of 32 bits, started on the word
itself. -/
theorem widening_leaves_no_trace :
    (∀ x : UInt32, ∃ bs, (∀ out : Bytes, Sink.write out (.u32 x) = out ++ bs) ∧
      (∀ cs, LoopWrites unsignedRound x.toUInt64.toBitVec cs ↔ cs = bs) ∧
      ∀ cs, LoopWrites unsignedRound x.toBitVec cs ↔ cs = bs) ∧
    ∀ y : Int32, ∃ bs, (∀ out : Bytes, Sink.write out (.i32 y) = out ++ bs) ∧
      (∀ cs, LoopWrites signedRound y.toInt64.toBitVec cs ↔ cs = bs) ∧
      ∀ cs, LoopWrites signedRound y.toBitVec cs ↔ cs = bs := by
  have hw : 7 ≤ 32 := by decide
  have hv : 32 ≤ 64 := by decide
  refine ⟨fun x => ?_, fun y => ?_⟩
  · have hnarrow := loopWrites_unsigned hw x.toBitVec
    have hwide := hnarrow.map (unsignedRound_setWidth hw hv)
    rw [← UInt32.toBitVec_toUInt64] at hwide
    exact ⟨(Write.u32 x).toBytes, fun out => LawfulSink.write_eq_bytes out (.u32 x),
      fun cs => hwide.iff_eq, fun cs => hnarrow.iff_eq⟩
  · have hnarrow := loopWrites_signed hw y.toBitVec
    have hwide := hnarrow.map (signedRound_signExtend hw hv)
    rw [← Int32.toBitVec_toInt64] at hwide
    exact ⟨(Write.i32 y).toBytes, fun out => LawfulSink.write_eq_bytes out (.i32 y),
      fun cs => hwide.iff_eq, fun cs => hnarrow.iff_eq⟩

end WasmBuilder.Leb128
