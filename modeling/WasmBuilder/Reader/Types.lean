import WasmBuilder.Import
import WasmBuilder.Reader.Basic

/-!
# Reading types, imports and exports

Readers for the types of the binary format and for the entries that are made of types, indices
and names alone.
-/

namespace WasmBuilder.Reader

variable {r : Referent}

/-- An index. -/
def index : Reader (Index r) := return ⟨← u32⟩

/-! ## Types -/

/-- A value type. -/
def valType : Reader ValType := code fun
  | 0x7f => some .i32
  | 0x7e => some .i64
  | 0x7d => some .f32
  | 0x7c => some .f64
  | 0x7b => some .v128
  | 0x70 => some .funcRef
  | 0x6f => some .externRef
  | _ => none

/-- A reference type. -/
def refType : Reader RefType := code fun
  | 0x70 => some .funcRef
  | 0x6f => some .externRef
  | _ => none

/-- A function type. -/
def funcType : Reader FuncType := do
  expect [0x60]
  return ⟨← list valType, ← list valType⟩

/-- A run of locals. -/
def localGroup : Reader LocalGroup := return ⟨← u32, ← valType⟩

/-- Limits: a flag says whether there is an upper bound. -/
def limits : Reader Limits := do
  match ← byte with
  | 0x00 => return ⟨← u32, none⟩
  | 0x01 => return ⟨← u32, some (← u32)⟩
  | _ => failure

/-- A table type. -/
def tableType : Reader TableType := return ⟨← refType, ← limits⟩

/-- A memory type. -/
def memType : Reader MemType := return ⟨← limits⟩

/-- A global type. -/
def globalType : Reader GlobalType := return ⟨← valType, ← bool⟩

/-- The argument of a memory access. -/
def memArg : Reader MemArg := return ⟨← u32, ← u32⟩

/-- The block type that a signed number stands for: an index if it is not negative, and one of
the empty type and the value types otherwise. -/
def blockTypeOf? : Int → Option BlockType
  | .ofNat n => some (.type ⟨UInt32.ofNat n⟩)
  | -1 => some (.value .i32)
  | -2 => some (.value .i64)
  | -3 => some (.value .f32)
  | -4 => some (.value .f64)
  | -5 => some (.value .v128)
  | -16 => some (.value .funcRef)
  | -17 => some (.value .externRef)
  | -64 => some .empty
  | _ => none

/-- A block type, read as one signed number. -/
def blockType : Reader BlockType := do
  ofOption (blockTypeOf? (← s33))

/-! ## Imports and exports -/

/-- An index space. -/
def space : Reader IndexSpace := code fun
  | 0x00 => some .func
  | 0x01 => some .table
  | 0x02 => some .mem
  | 0x03 => some .global
  | _ => none

/-- What is imported. -/
def importDesc : Reader ImportDesc := do
  match ← space with
  | .func => return .func (← index)
  | .table => return .table (← tableType)
  | .mem => return .mem (← memType)
  | .global => return .global (← globalType)

/-- An import. -/
def importEntry : Reader Import := return ⟨← name, ← name, ← importDesc⟩

end WasmBuilder.Reader
