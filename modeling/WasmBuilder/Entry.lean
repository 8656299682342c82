import WasmBuilder.Code

/-!
# Entries of a module

Globals, exports and the segments that fill tables and memories. Expressions inside of entries
carry no length: they end with the instruction that ends them.
-/

namespace WasmBuilder

/-- A global with the expression that gives its first value. -/
structure Global where
  type : GlobalType
  init : Code
deriving DecidableEq

instance : Binary Global where writes g := Binary.writes g.type ++ Binary.writes g.init

/-- Something that the module offers under a name. -/
structure Export where
  name : String
  kind : IndexSpace
  index : UInt32
deriving DecidableEq

instance : Binary Export where writes e := [.name e.name, .byte e.kind.byte, .index e.index]

/-- Functions to be put in a table, from an offset on, when the module starts. -/
structure ElementSegment where
  table : TableIdx
  offset : Code
  funcs : List FuncIdx
deriving DecidableEq

/-- The first table has a shorter form. Any other is named, and the form then also says by a zero
byte that the elements are functions. -/
instance : Binary ElementSegment where
  writes s :=
    if s.table.val = 0 then .u32 0x00 :: Binary.writes s.offset ++ Binary.writes s.funcs
    else .u32 0x02 :: Binary.writes s.table ++ Binary.writes s.offset ++
      .byte 0x00 :: Binary.writes s.funcs

/-- When a data segment is used. -/
inductive DataMode where
  /-- Only when an instruction asks for it. -/
  | passive
  /-- When the module starts, in a memory from an offset on. -/
  | active (mem : MemIdx) (offset : Code)
deriving DecidableEq

/-- Bytes for a memory. -/
structure DataSegment where
  mode : DataMode
  bytes : Bytes
deriving DecidableEq

/-- Whether the segment waits for an instruction. -/
def DataSegment.isPassive (s : DataSegment) : Bool :=
  match s.mode with
  | .passive => true
  | .active .. => false

/-- Whether one of the segments waits for an instruction. -/
def DataSegment.anyPassive (segments : List DataSegment) : Bool := segments.any isPassive

/-- The first memory has a shorter form. -/
instance : Binary DataMode where
  writes
    | .passive => [.u32 0x01]
    | .active mem offset =>
      if mem.val = 0 then .u32 0x00 :: Binary.writes offset
      else .u32 0x02 :: Binary.writes mem ++ Binary.writes offset

instance : Binary DataSegment where writes s := Binary.writes s.mode ++ Binary.writes s.bytes

end WasmBuilder
