import WasmBuilder.Proofs.Reader.Instruction

/-!
# Streams of instructions

Since the bytes of an instruction say where they end, a stream of instructions can be taken apart
again. Two uses are made of this.

* A stream that takes up all bytes is read back whole, so it is determined by its bytes.
* An expression is a stream with more bytes after it. Its end is found by counting open blocks,
  which works out for a well-bracketed stream: it leaves the depth where it found it.
-/

namespace WasmBuilder

namespace Reader

/-! ## Whole streams -/

/-- As many steps as there are instructions are enough to read them all. -/
theorem instructionsWithin_flatMap {lengths : Lengths} : ∀ (is : List Instruction) (fuel : Nat),
    is.length ≤ fuel → lengths.Allow (is.flatMap Instruction.toBytes).length →
      instructionsWithin lengths fuel (is.flatMap Instruction.toBytes) = some is
  | [], _, _, _ => by rw [List.flatMap_nil, instructionsWithin]
  | i :: is, 0, hfuel, _ => absurd hfuel (by simp)
  | i :: is, fuel + 1, hfuel, hallow => by
    rw [List.flatMap_cons] at hallow ⊢
    rw [List.length_append] at hallow
    have hi := reads_instruction i lengths (is.flatMap Instruction.toBytes)
      (hallow.mono (by omega))
    have ih := instructionsWithin_flatMap is fuel (by simpa using hfuel) (hallow.mono (by omega))
    -- the reader only tells an empty stream from one with a first byte
    obtain ⟨b, bs, hbs⟩ := List.exists_cons_of_length_pos i.length_toBytes_pos
    rw [hbs, List.cons_append] at hi ⊢
    rw [instructionsWithin, hi]
    show (instructionsWithin lengths fuel (is.flatMap Instruction.toBytes) >>= fun is' =>
      some (i :: is')) = _
    rw [ih]
    rfl

/-- **A stream of instructions is read back from its bytes.** -/
theorem instructions_flatMap {lengths : Lengths} (is : List Instruction)
    (hallow : lengths.Allow (is.flatMap Instruction.toBytes).length) :
    instructions lengths (is.flatMap Instruction.toBytes) = some is :=
  instructionsWithin_flatMap is _
    (length_le_length_flatMap is fun i _ => List.length_pos_iff.mp i.length_toBytes_pos) hallow

end Reader

/-! ## Expressions -/

/-- Whether an operator opens a block, which an `end` has to close. -/
def Operator.opensBlock : Operator → Bool
  | block | loop | ifBranch => true
  | _ => false

/-- The instruction that ends a block or an expression. -/
def Instruction.endBlock : Instruction := ⟨.endBlock, ()⟩

/-- Streams in which every block that is opened is closed, and nothing else is. The middle of an
`if` counts as any other instruction. -/
inductive WellBracketed : List Instruction → Prop where
  | nil : WellBracketed []
  | plain {i : Instruction} {is : List Instruction} : i.operator.opensBlock = false →
      i.operator ≠ .endBlock → WellBracketed is → WellBracketed (i :: is)
  | block {i : Instruction} {body is : List Instruction} : i.operator.opensBlock = true →
      WellBracketed body → WellBracketed is → WellBracketed (i :: (body ++ .endBlock :: is))

/-- A code that is an expression: a well-bracketed stream, then the `end` that closes it. -/
def Code.IsExpression (c : Code) : Prop :=
  ∃ body : List Instruction, WellBracketed body ∧
    c.bytes = (body ++ [Instruction.endBlock]).flatMap Instruction.toBytes

namespace Reader

variable {lengths : Lengths} {fuel depth : Nat} {bs rest : Bytes} {i : Instruction}

/-- An instruction that neither opens nor closes a block is passed over. -/
theorem afterEnd_plain (hi : instruction lengths bs = some (i, rest))
    (hopen : i.operator.opensBlock = false) (hend : i.operator ≠ .endBlock) :
    afterEnd lengths (fuel + 1) depth bs = afterEnd lengths fuel depth rest := by
  rw [afterEnd, hi]
  simp only [bind, Option.bind]
  split <;> simp_all [Operator.opensBlock]

/-- An instruction that opens a block adds to the depth. -/
theorem afterEnd_open (hi : instruction lengths bs = some (i, rest))
    (hopen : i.operator.opensBlock = true) :
    afterEnd lengths (fuel + 1) depth bs = afterEnd lengths fuel (depth + 1) rest := by
  rw [afterEnd, hi]
  simp only [bind, Option.bind]
  split <;> simp_all [Operator.opensBlock]

/-- An `end` inside of a block closes the block. -/
theorem afterEnd_endBlock (hi : instruction lengths bs = some (.endBlock, rest)) :
    afterEnd lengths (fuel + 1) (depth + 1) bs = afterEnd lengths fuel depth rest := by
  rw [afterEnd, hi]
  rfl

/-- An `end` outside of all blocks closes the expression. -/
theorem afterEnd_endBlock_zero (hi : instruction lengths bs = some (.endBlock, rest)) :
    afterEnd lengths (fuel + 1) 0 bs = some rest := by
  rw [afterEnd, hi]
  rfl

/-- **A well-bracketed stream leaves the depth where it found it.** The induction is on the way the
stream is bracketed; a block goes up by one at its start and down again at its `end`. -/
theorem afterEnd_flatMap {is : List Instruction} (h : WellBracketed is) :
    ∀ (fuel depth : Nat) (rest : Bytes), lengths.Allow (is.flatMap Instruction.toBytes).length →
      afterEnd lengths (fuel + is.length) depth (is.flatMap Instruction.toBytes ++ rest)
        = afterEnd lengths fuel depth rest := by
  induction h with
  | nil => intro fuel depth rest _; rfl
  | @plain i is hopen hend _ ih =>
    intro fuel depth rest hallow
    rw [List.flatMap_cons, List.length_append] at hallow
    have hi := reads_instruction i lengths (is.flatMap Instruction.toBytes ++ rest)
      (hallow.mono (by omega))
    rw [List.flatMap_cons, List.append_assoc, List.length_cons, ← Nat.add_assoc,
      afterEnd_plain hi hopen hend, ih fuel depth rest (hallow.mono (by omega))]
  | @block i body is hopen _ _ ihbody ih =>
    intro fuel depth rest hallow
    simp only [List.flatMap_cons, List.flatMap_append, List.length_append] at hallow
    have hi := reads_instruction i lengths (body.flatMap Instruction.toBytes ++
      (Instruction.endBlock.toBytes ++ (is.flatMap Instruction.toBytes ++ rest)))
      (hallow.mono (by omega))
    have hend := reads_instruction .endBlock lengths (is.flatMap Instruction.toBytes ++ rest)
      (hallow.mono (by omega))
    have hfuel : fuel + (i :: (body ++ .endBlock :: is)).length
        = fuel + is.length + 1 + body.length + 1 := by
      simp only [List.length_cons, List.length_append]
      omega
    simp only [List.flatMap_cons, List.flatMap_append, List.append_assoc]
    rw [hfuel, afterEnd_open hi hopen, ihbody _ _ _ (hallow.mono (by omega)),
      afterEnd_endBlock hend, ih fuel depth rest (hallow.mono (by omega))]

/-- **An expression is read up to its end, whatever follows it.** -/
theorem reads_expression {c : Code} (h : c.IsExpression) : Reads expression c.bytes c.bytes := by
  obtain ⟨body, hbody, hbytes⟩ := h
  intro lengths rest hallow
  have hlen := length_le_length_flatMap (body ++ [Instruction.endBlock])
    fun i _ => List.length_pos_iff.mp i.length_toBytes_pos
  rw [← hbytes, List.length_append, List.length_singleton] at hlen
  obtain ⟨fuel, hfuel⟩ : ∃ fuel, (c.bytes ++ rest).length = fuel + 1 + body.length := by
    refine ⟨(c.bytes ++ rest).length - body.length - 1, ?_⟩
    rw [List.length_append]
    omega
  have hafter : afterEnd lengths (c.bytes ++ rest).length 0 (c.bytes ++ rest) = some rest := by
    rw [hbytes, List.flatMap_append, List.flatMap_singleton, List.length_append] at hallow
    have hend := reads_instruction .endBlock lengths rest (hallow.mono (by omega))
    rw [hfuel, hbytes, List.flatMap_append, List.flatMap_singleton, List.append_assoc,
      afterEnd_flatMap hbody _ _ _ (hallow.mono (by omega)), afterEnd_endBlock_zero hend]
  rw [expression, hafter, Option.map_some, List.length_append, Nat.add_sub_cancel, List.take_left]

/-! ## What a code accepts can be read back -/

/-- Accepted pairs of an operator and immediates are read back from the bytes they leave. -/
theorem map_parts_instructions (lengths : Lengths) {ps : List (Operator × List Immediate)}
    (h : (Code.empty.appendAll ps).result = .ok ())
    (hallow : lengths.Allow (Code.empty.appendAll ps).state.bytes.length) :
    (instructions lengths (Code.empty.appendAll ps).state.bytes).map (·.map Instruction.parts)
      = some ps := by
  obtain ⟨is, his, hbytes⟩ := Code.exists_of_appendAll ps .empty h
  rw [show Code.empty.bytes = [] from rfl, List.nil_append] at hbytes
  rw [hbytes] at hallow ⊢
  rw [instructions_flatMap is hallow, Option.map_some, his]

/--
**Accepted instructions are determined by their bytes.**

Adding pairs of an operator and immediates to an empty code, if all of them are accepted, and reading
the bytes by the table, gives exactly these pairs, with nothing left over. Floats are compared by
their bits. Lengths of any size are read; the 32 bits of the format are enough for a code of less
than 2 ^ 32 bytes. So two lists of accepted pairs with the same bytes are equal.
-/
theorem instructions_bytes_of_appendAll (ps : List (Operator × List Immediate))
    (h : (Code.empty.appendAll ps).result = .ok ()) :
    let bytes := (Code.empty.appendAll ps).state.bytes
    (instructions .any bytes).map (·.map Instruction.parts) = some ps ∧
      (bytes.length < UInt32.size →
        (instructions (.bits 32) bytes).map (·.map Instruction.parts) = some ps) ∧
      ∀ qs : List (Operator × List Immediate),
        (Code.empty.appendAll qs).result = .ok () →
          bytes = (Code.empty.appendAll qs).state.bytes → ps = qs := by
  intro bytes
  have hps := map_parts_instructions .any h trivial
  refine ⟨hps, fun hlen => map_parts_instructions (.bits 32) h hlen, ?_⟩
  intro qs hqs hbytes
  rw [show (Code.empty.appendAll ps).state.bytes = _ from hbytes,
    map_parts_instructions .any hqs trivial] at hps
  exact (Option.some.inj hps).symm

/-- A stream with a block type past the one-byte indices, a counted list, a NaN with a payload and
opcodes of one, two and three bytes. -/
def mixedStream : List (Operator × List Immediate) := [
  (.block, [⟨.blockType, .type ⟨64⟩⟩]),
  (.brTable, [⟨.labels, [⟨0⟩, ⟨200⟩]⟩, ⟨.label, ⟨1⟩⟩]),
  (.f32Const, [⟨.f32, ⟨0xffc00001⟩⟩]),
  (.i64Const, [⟨.i64, -65⟩]),
  (.memoryInit, [⟨.data, ⟨1⟩⟩, ⟨.mem, ⟨0⟩⟩]),
  (.f64x2Pmax, []),
  (.endBlock, [])]

theorem instructions_bytes_of_mixedStream :
    (Code.empty.appendAll mixedStream).result = .ok () ∧
      (Code.empty.appendAll mixedStream).state.bytes.length < UInt32.size ∧
      (instructions .any (Code.empty.appendAll mixedStream).state.bytes).map
        (·.map Instruction.parts) = some mixedStream ∧
      (instructions (.bits 32) (Code.empty.appendAll mixedStream).state.bytes).map
        (·.map Instruction.parts) = some mixedStream := by
  have h : (Code.empty.appendAll mixedStream).result = .ok () := rfl
  have hlen : (Code.empty.appendAll mixedStream).state.bytes.length < UInt32.size := by
    decide +kernel
  obtain ⟨hany, hbits, -⟩ := instructions_bytes_of_appendAll mixedStream h
  exact ⟨h, hlen, hany, hbits hlen⟩

end Reader

end WasmBuilder
