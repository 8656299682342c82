import WasmBuilder.Proofs.BlockType
import WasmBuilder.Proofs.Reader.Basic

/-!
# Reading back types, imports and indices

For each type of the binary format that is made of bytes, numbers, names and lists: its reader
reads back what is written for a value. A reader starts with what the value starts with, so most
proofs follow the reader from part to part.
-/

namespace WasmBuilder

/-- A list is written as its number of elements and then the elements. -/
theorem Binary.toBytes_list {α : Type} [Binary α] (xs : List α) :
    Binary.toBytes xs = Leb128.unsigned xs.length ++ xs.flatMap Binary.toBytes := by
  show Leb128.unsigned xs.length ++ Write.toBytesAll (xs.flatMap Binary.writes) = _
  rw [Write.toBytesAll, List.flatMap_assoc]
  rfl

namespace Reader

/-- A list of values that can be read back can be read back. -/
theorem reads_listOf {α : Type} [Binary α] {r : Reader α} (h0 : ∀ lengths, r lengths [] = none)
    (h : ∀ x, Reads r (Binary.toBytes x) x) (xs : List α) :
    Reads (list r) (Binary.toBytes xs) xs := by
  have hxs := reads_list (f := id) xs h0 fun x _ => h x
  rwa [List.map_id, ← Binary.toBytes_list] at hxs

theorem reads_index {r : Referent} (i : Index r) : Reads index (Binary.toBytes i) i :=
  (reads_u32 i.val).bind (reads_pure i)

/-! ## Types -/

theorem reads_valType (t : ValType) : Reads valType (Binary.toBytes t) t := by
  cases t <;> exact reads_code rfl

theorem reads_valTypes (ts : List ValType) : Reads (list valType) (Binary.toBytes ts) ts :=
  reads_listOf (fun _ => rfl) reads_valType ts

theorem reads_refType (t : RefType) : Reads refType (Binary.toBytes t) t := by
  cases t <;> exact reads_code rfl

theorem reads_funcType (t : FuncType) : Reads funcType (Binary.toBytes t) t := by
  refine ((reads_expect [0x60]).bind ((reads_valTypes t.params).bind
    (reads_valTypes t.results).bind_pure)).congr ?_
  exact congrArg (0x60 :: ·) (Write.toBytesAll_append _ _)

theorem reads_localGroup (g : LocalGroup) : Reads localGroup (Binary.toBytes g) g :=
  (reads_u32 g.count).bind (reads_valType g.type).bind_pure

/-- The flag in front says how many bounds follow. -/
theorem reads_limits (l : Limits) : Reads limits (Binary.toBytes l) l := by
  obtain ⟨min, max⟩ := l
  cases max with
  | none => exact (reads_byte 0x00).bind ((reads_u32 min).bind (reads_pure _))
  | some max =>
    refine ((reads_byte 0x01).bind ((reads_u32 min).bind (reads_u32 max).bind_pure)).congr ?_
    simp only [Binary.toBytes, Binary.writes, Write.toBytesAll_cons, Write.toBytesAll_nil,
      Write.toBytes, List.append_nil]

theorem reads_tableType (t : TableType) : Reads tableType (Binary.toBytes t) t := by
  refine ((reads_refType t.elem).bind (reads_limits t.limits).bind_pure).congr ?_
  exact Write.toBytesAll_append _ _

theorem reads_memType (t : MemType) : Reads memType (Binary.toBytes t) t :=
  (reads_limits t.limits).bind_pure

theorem reads_globalType (t : GlobalType) : Reads globalType (Binary.toBytes t) t :=
  (reads_valType t.val).bind (reads_bool t.mutable).bind_pure

theorem reads_memArg (a : MemArg) : Reads memArg (Binary.toBytes a) a := by
  refine ((reads_u32 a.align).bind (reads_u32 a.offset).bind_pure).congr ?_
  simp only [Binary.toBytes, Binary.writes, Write.toBytesAll_cons, Write.toBytesAll_nil,
    Write.toBytes, List.append_nil]

/-- **A block type is read back from the one signed number that it is written as.** -/
theorem reads_blockType (t : BlockType) : Reads blockType (Binary.toBytes t) t := by
  intro lengths rest _
  have hnumber : s33 lengths (Binary.toBytes t ++ rest) = some (t.number, rest) :=
    t.readSignedWithin_toBytes rest
  rw [blockType, run_bind hnumber, t.blockTypeOf?_number]
  rfl

/-! ## Imports -/

theorem reads_space (s : IndexSpace) : Reads space (Binary.toBytes s) s := by
  cases s <;> exact reads_code rfl

theorem reads_importDesc (d : ImportDesc) : Reads importDesc (Binary.toBytes d) d := by
  cases d with
  | func type => exact (reads_space .func).bind (reads_index type).bind_pure
  | table type => exact (reads_space .table).bind (reads_tableType type).bind_pure
  | mem type => exact (reads_space .mem).bind (reads_memType type).bind_pure
  | global type => exact (reads_space .global).bind (reads_globalType type).bind_pure

theorem reads_importEntry (i : Import) : Reads importEntry (Binary.toBytes i) i :=
  (reads_name i.module).bind ((reads_name i.field).bind (reads_importDesc i.desc).bind_pure)

end Reader

end WasmBuilder
