import WasmBuilder.Proofs.Code
import WasmBuilder.Proofs.Operator
import WasmBuilder.Proofs.Reader.Types

/-!
# Reading back instructions

The opcode gives the operator, the operator gives the kinds of its immediates, and each kind is
read back from its own bytes. So the bytes of an instruction say where they end.
-/

namespace WasmBuilder

namespace Reader

/-- **An operator is read back from its opcode.** The reader looks for a single byte first, which
does no harm because no lead byte is an opcode by itself. -/
theorem reads_operator (o : Operator) : Reads operator (Binary.toBytes o.opcode) o := by
  have ho := Operator.ofOpcode?_opcode o
  cases hcode : o.opcode with
  | byte b =>
    rw [hcode] at ho
    refine (reads_byte b).bind ?_
    rw [ho]
    exact reads_pure o
  | extended lead sub =>
    rw [hcode] at ho
    refine (reads_byte lead).bind ?_
    rw [Operator.ofOpcode?_lead hcode]
    exact (reads_u32 sub).bind (reads_ofOption ho)

/-! ## Immediates -/

/-- A value is read back by the reader of its kind. -/
theorem reads_immediate (k : ImmediateKind) (v : k.Value) :
    Reads (immediate k) (Write.toBytesAll (k.writes v)) v := by
  cases k with
  | blockType => exact reads_blockType v
  | label => exact reads_index v
  | labels => exact reads_listOf (fun _ => rfl) reads_index v
  | func => exact reads_index v
  | type => exact reads_index v
  | table => exact reads_index v
  | mem => exact reads_index v
  | global => exact reads_index v
  | localVar => exact reads_index v
  | elem => exact reads_index v
  | data => exact reads_index v
  | lane => exact reads_index v
  | lanes =>
    refine (reads_vector reads_index v).congr ?_
    rw [ImmediateKind.writes, Write.toBytesAll, List.flatMap_assoc]
    rfl
  | memArg => exact reads_memArg v
  | i32 => exact (reads_s32 v).congr (List.append_nil _)
  | i64 => exact (reads_s64 v).congr (List.append_nil _)
  | f32 => exact (reads_f32 v).congr (List.append_nil _)
  | f64 => exact (reads_f64 v).congr (List.append_nil _)
  | v128 =>
    refine (reads_vector reads_byte v).congr ?_
    rw [List.flatMap_singleton']
    exact List.append_nil _
  | refType => exact reads_refType v
  | valTypes => exact reads_valTypes v

/-- The operands of an operator are read back one after the other. -/
theorem reads_operands : ∀ (ks : List ImmediateKind) (vs : Operands ks),
    Reads (operands ks) ((Operands.toImmediates ks vs).flatMap Binary.toBytes) vs
  | [], _ => reads_pure ()
  | k :: ks, (v, vs) => (reads_immediate k v).bind (reads_operands ks vs).bind_pure

/-- **An instruction is read back, whatever follows it.** -/
theorem reads_instruction (i : Instruction) : Reads instruction i.toBytes i :=
  (reads_operator i.operator).bind (reads_operands i.operator.kinds i.operands).bind_pure

theorem instruction_nil (lengths : Lengths) : instruction lengths [] = none := rfl

end Reader

/-- An instruction takes at least one byte. -/
theorem Instruction.length_toBytes_pos (i : Instruction) : 0 < i.toBytes.length :=
  List.length_pos_iff.mpr ((Reader.reads_instruction i).ne_nil Reader.instruction_nil)

end WasmBuilder
