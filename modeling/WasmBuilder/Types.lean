import WasmBuilder.Index

/-!
# Types

The types of values, functions, tables, memories and globals, the type annotation of a block and
the argument of a memory access, each with its binary form.
-/

namespace WasmBuilder

/-! ## Values and references -/

/-- The type of a value. -/
inductive ValType where
  | i32
  | i64
  | f32
  | f64
  | v128
  | funcRef
  | externRef
deriving DecidableEq

/-- The byte of a value type. -/
def ValType.byte : ValType → UInt8
  | i32 => 0x7f
  | i64 => 0x7e
  | f32 => 0x7d
  | f64 => 0x7c
  | v128 => 0x7b
  | funcRef => 0x70
  | externRef => 0x6f

instance : Binary ValType where writes t := [.byte t.byte]

/-- The type of a reference. -/
inductive RefType where
  | funcRef
  | externRef
deriving DecidableEq

/-- The byte of a reference type. -/
def RefType.byte : RefType → UInt8
  | funcRef => 0x70
  | externRef => 0x6f

/-- Every reference type is a value type. -/
def RefType.toValType : RefType → ValType
  | funcRef => .funcRef
  | externRef => .externRef

/-- A reference type has the same byte as the value type it stands for. -/
theorem RefType.byte_toValType (t : RefType) : t.toValType.byte = t.byte := by
  cases t <;> rfl

instance : Binary RefType where writes t := [.byte t.byte]

/-! ## Functions -/

/-- A function's signature. -/
structure FuncType where
  params : List ValType
  results : List ValType
deriving DecidableEq

instance : Binary FuncType where
  writes t := .byte 0x60 :: Binary.writes t.params ++ Binary.writes t.results

/-- A run of `count` locals of one type. -/
structure LocalGroup where
  count : UInt32
  type : ValType
deriving DecidableEq

instance : Binary LocalGroup where writes g := [.u32 g.count, .byte g.type.byte]

/-! ## Tables, memories, globals -/

/-- A size with a lower and, perhaps, an upper bound. -/
structure Limits where
  min : UInt32
  max : Option UInt32
deriving DecidableEq

instance : Binary Limits where
  writes
    | ⟨min, none⟩ => [.byte 0x00, .u32 min]
    | ⟨min, some max⟩ => [.byte 0x01, .u32 min, .u32 max]

/-- The type of a table: what it holds and how large it is. -/
structure TableType where
  elem : RefType
  limits : Limits
deriving DecidableEq

instance : Binary TableType where writes t := Binary.writes t.elem ++ Binary.writes t.limits

/-- The type of a memory: its size in pages. -/
structure MemType where
  limits : Limits
deriving DecidableEq

instance : Binary MemType where writes t := Binary.writes t.limits

/-- The type of a global: its value's type and whether it can be set. -/
structure GlobalType where
  val : ValType
  mutable : Bool
deriving DecidableEq

instance : Binary GlobalType where writes t := [.byte t.val.byte, .bool t.mutable]

/-! ## Annotations of instructions -/

/-- The alignment of a memory access, as a power of two, and its offset. -/
structure MemArg where
  align : UInt32
  offset : UInt32
deriving DecidableEq

instance : Binary MemArg where writes a := [.memArg a.align a.offset]

/-- What a block takes and leaves. -/
inductive BlockType where
  /-- It takes and leaves nothing. -/
  | empty
  /-- It takes nothing and leaves one value. -/
  | value (t : ValType)
  /-- It takes and leaves what a declared function type says. -/
  | type (i : TypeIdx)
deriving DecidableEq

/-- A type index is written as a signed number that is never negative. -/
instance : Binary BlockType where
  writes
    | .empty => [.byte 0x40]
    | .value t => [.byte t.byte]
    | .type i => [.i64 (Int64.ofNat i.val.toNat)]

end WasmBuilder
