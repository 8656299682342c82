import WasmBuilder.Immediate
import WasmBuilder.NameMap
import WasmBuilder.Opcode

/-!
# Operators

An operator is what an instruction does, apart from its immediates. There are 437 of them, and
one table says everything about each: its name in the text format, its opcode and the kinds of
the immediates it takes, in the order in which they are written. Emitting, checking, reading and
listing instructions all go by this table.

`Operator.all` lists the operators in the order of the table, which is the order of their opcodes.
Names are looked up in a map that is filled from the table in this order.
-/

namespace WasmBuilder

/-- The operators. -/
inductive Operator where
  -- Control
  | unreachable | nop | block | loop | ifBranch | elseBranch | endBlock | br | brIf | brTable
  | returnValues | call | callIndirect
  -- Parametric
  | drop | select | selectTyped
  -- Variables and tables
  | localGet | localSet | localTee | globalGet | globalSet | tableGet | tableSet
  -- Memory
  | i32Load | i64Load | f32Load | f64Load | i32Load8S | i32Load8U | i32Load16S | i32Load16U
  | i64Load8S | i64Load8U | i64Load16S | i64Load16U | i64Load32S | i64Load32U | i32Store
  | i64Store | f32Store | f64Store | i32Store8 | i32Store16 | i64Store8 | i64Store16 | i64Store32
  | memorySize | memoryGrow
  -- Constants
  | i32Const | i64Const | f32Const | f64Const
  -- Comparisons
  | i32Eqz | i32Eq | i32Ne | i32LtS | i32LtU | i32GtS | i32GtU | i32LeS | i32LeU | i32GeS | i32GeU
  | i64Eqz | i64Eq | i64Ne | i64LtS | i64LtU | i64GtS | i64GtU | i64LeS | i64LeU | i64GeS | i64GeU
  | f32Eq | f32Ne | f32Lt | f32Gt | f32Le | f32Ge | f64Eq | f64Ne | f64Lt | f64Gt | f64Le | f64Ge
  -- Integer arithmetic
  | i32Clz | i32Ctz | i32Popcnt | i32Add | i32Sub | i32Mul | i32DivS | i32DivU | i32RemS | i32RemU
  | i32And | i32Or | i32Xor | i32Shl | i32ShrS | i32ShrU | i32Rotl | i32Rotr | i64Clz | i64Ctz
  | i64Popcnt | i64Add | i64Sub | i64Mul | i64DivS | i64DivU | i64RemS | i64RemU | i64And | i64Or
  | i64Xor | i64Shl | i64ShrS | i64ShrU | i64Rotl | i64Rotr
  -- Float arithmetic
  | f32Abs | f32Neg | f32Ceil | f32Floor | f32Trunc | f32Nearest | f32Sqrt | f32Add | f32Sub
  | f32Mul | f32Div | f32Min | f32Max | f32Copysign | f64Abs | f64Neg | f64Ceil | f64Floor
  | f64Trunc | f64Nearest | f64Sqrt | f64Add | f64Sub | f64Mul | f64Div | f64Min | f64Max
  | f64Copysign
  -- Conversions
  | i32WrapI64 | i32TruncF32S | i32TruncF32U | i32TruncF64S | i32TruncF64U | i64ExtendI32S
  | i64ExtendI32U | i64TruncF32S | i64TruncF32U | i64TruncF64S | i64TruncF64U | f32ConvertI32S
  | f32ConvertI32U | f32ConvertI64S | f32ConvertI64U | f32DemoteF64 | f64ConvertI32S
  | f64ConvertI32U | f64ConvertI64S | f64ConvertI64U | f64PromoteF32 | i32ReinterpretF32
  | i64ReinterpretF64 | f32ReinterpretI32 | f64ReinterpretI64 | i32Extend8S | i32Extend16S
  | i64Extend8S | i64Extend16S | i64Extend32S
  -- References
  | refNull | refIsNull | refFunc
  -- Saturating conversions
  | i32TruncSatF32S | i32TruncSatF32U | i32TruncSatF64S | i32TruncSatF64U | i64TruncSatF32S
  | i64TruncSatF32U | i64TruncSatF64S | i64TruncSatF64U
  -- Bulk memory and tables
  | memoryInit | dataDrop | memoryCopy | memoryFill | tableInit | elemDrop | tableCopy | tableGrow
  | tableSize | tableFill
  -- Vector memory and constants
  | v128Load | v128Load8x8S | v128Load8x8U | v128Load16x4S | v128Load16x4U | v128Load32x2S
  | v128Load32x2U | v128Load8Splat | v128Load16Splat | v128Load32Splat | v128Load64Splat
  | v128Store | v128Const
  -- Lanes
  | i8x16Shuffle | i8x16Swizzle | i8x16Splat | i16x8Splat | i32x4Splat | i64x2Splat | f32x4Splat
  | f64x2Splat | i8x16ExtractLaneS | i8x16ExtractLaneU | i8x16ReplaceLane | i16x8ExtractLaneS
  | i16x8ExtractLaneU | i16x8ReplaceLane | i32x4ExtractLane | i32x4ReplaceLane | i64x2ExtractLane
  | i64x2ReplaceLane | f32x4ExtractLane | f32x4ReplaceLane | f64x2ExtractLane | f64x2ReplaceLane
  -- Vector comparisons
  | i8x16Eq | i8x16Ne | i8x16LtS | i8x16LtU | i8x16GtS | i8x16GtU | i8x16LeS | i8x16LeU | i8x16GeS
  | i8x16GeU | i16x8Eq | i16x8Ne | i16x8LtS | i16x8LtU | i16x8GtS | i16x8GtU | i16x8LeS | i16x8LeU
  | i16x8GeS | i16x8GeU | i32x4Eq | i32x4Ne | i32x4LtS | i32x4LtU | i32x4GtS | i32x4GtU | i32x4LeS
  | i32x4LeU | i32x4GeS | i32x4GeU | f32x4Eq | f32x4Ne | f32x4Lt | f32x4Gt | f32x4Le | f32x4Ge
  | f64x2Eq | f64x2Ne | f64x2Lt | f64x2Gt | f64x2Le | f64x2Ge
  -- Bitwise vector operations
  | v128Not | v128And | v128Andnot | v128Or | v128Xor | v128Bitselect | v128AnyTrue
  -- Lane memory access
  | v128Load8Lane | v128Load16Lane | v128Load32Lane | v128Load64Lane | v128Store8Lane
  | v128Store16Lane | v128Store32Lane | v128Store64Lane | v128Load32Zero | v128Load64Zero
  -- Vector arithmetic
  | f32x4DemoteF64x2Zero | f64x2PromoteLowF32x4 | i8x16Abs | i8x16Neg | i8x16Popcnt | i8x16AllTrue
  | i8x16Bitmask | i8x16NarrowI16x8S | i8x16NarrowI16x8U | f32x4Ceil | f32x4Floor | f32x4Trunc
  | f32x4Nearest | i8x16Shl | i8x16ShrS | i8x16ShrU | i8x16Add | i8x16AddSatS | i8x16AddSatU
  | i8x16Sub | i8x16SubSatS | i8x16SubSatU | f64x2Ceil | f64x2Floor | i8x16MinS | i8x16MinU
  | i8x16MaxS | i8x16MaxU | f64x2Trunc | i8x16AvgrU | i16x8ExtaddPairwiseI8x16S
  | i16x8ExtaddPairwiseI8x16U | i32x4ExtaddPairwiseI16x8S | i32x4ExtaddPairwiseI16x8U | i16x8Abs
  | i16x8Neg | i16x8Q15mulrSatS | i16x8AllTrue | i16x8Bitmask | i16x8NarrowI32x4S
  | i16x8NarrowI32x4U | i16x8ExtendLowI8x16S | i16x8ExtendHighI8x16S | i16x8ExtendLowI8x16U
  | i16x8ExtendHighI8x16U | i16x8Shl | i16x8ShrS | i16x8ShrU | i16x8Add | i16x8AddSatS
  | i16x8AddSatU | i16x8Sub | i16x8SubSatS | i16x8SubSatU | f64x2Nearest | i16x8Mul | i16x8MinS
  | i16x8MinU | i16x8MaxS | i16x8MaxU | i16x8AvgrU | i16x8ExtmulLowI8x16S | i16x8ExtmulHighI8x16S
  | i16x8ExtmulLowI8x16U | i16x8ExtmulHighI8x16U | i32x4Abs | i32x4Neg | i32x4AllTrue
  | i32x4Bitmask | i32x4ExtendLowI16x8S | i32x4ExtendHighI16x8S | i32x4ExtendLowI16x8U
  | i32x4ExtendHighI16x8U | i32x4Shl | i32x4ShrS | i32x4ShrU | i32x4Add | i32x4Sub | i32x4Mul
  | i32x4MinS | i32x4MinU | i32x4MaxS | i32x4MaxU | i32x4DotI16x8S | i32x4ExtmulLowI16x8S
  | i32x4ExtmulHighI16x8S | i32x4ExtmulLowI16x8U | i32x4ExtmulHighI16x8U | i64x2Abs | i64x2Neg
  | i64x2AllTrue | i64x2Bitmask | i64x2ExtendLowI32x4S | i64x2ExtendHighI32x4S
  | i64x2ExtendLowI32x4U | i64x2ExtendHighI32x4U | i64x2Shl | i64x2ShrS | i64x2ShrU | i64x2Add
  | i64x2Sub | i64x2Mul | i64x2Eq | i64x2Ne | i64x2LtS | i64x2GtS | i64x2LeS | i64x2GeS
  | i64x2ExtmulLowI32x4S | i64x2ExtmulHighI32x4S | i64x2ExtmulLowI32x4U | i64x2ExtmulHighI32x4U
  | f32x4Abs | f32x4Neg | f32x4Sqrt | f32x4Add | f32x4Sub | f32x4Mul | f32x4Div | f32x4Min
  | f32x4Max | f32x4Pmin | f32x4Pmax | f64x2Abs | f64x2Neg | f64x2Sqrt | f64x2Add | f64x2Sub
  | f64x2Mul | f64x2Div | f64x2Min | f64x2Max | f64x2Pmin | f64x2Pmax
  -- Vector conversions
  | i32x4TruncSatF32x4S | i32x4TruncSatF32x4U | f32x4ConvertI32x4S | f32x4ConvertI32x4U
  | i32x4TruncSatF64x2SZero | i32x4TruncSatF64x2UZero | f64x2ConvertLowI32x4S
  | f64x2ConvertLowI32x4U
deriving DecidableEq

namespace Operator

/-- What the table says about one operator. -/
structure Entry where
  /-- The name in the text format. -/
  name : String
  /-- What the instruction starts with. -/
  opcode : Opcode
  /-- The kinds of the immediates, in the order in which they are written. -/
  kinds : List ImmediateKind

/-- The table. -/
def entry : Operator → Entry
  -- Control
  | unreachable => ⟨"unreachable", .byte 0x00, []⟩
  | nop => ⟨"nop", .byte 0x01, []⟩
  | block => ⟨"block", .byte 0x02, [.blockType]⟩
  | loop => ⟨"loop", .byte 0x03, [.blockType]⟩
  | ifBranch => ⟨"if", .byte 0x04, [.blockType]⟩
  | elseBranch => ⟨"else", .byte 0x05, []⟩
  | endBlock => ⟨"end", .byte 0x0b, []⟩
  | br => ⟨"br", .byte 0x0c, [.label]⟩
  | brIf => ⟨"br_if", .byte 0x0d, [.label]⟩
  | brTable => ⟨"br_table", .byte 0x0e, [.labels, .label]⟩
  | returnValues => ⟨"return", .byte 0x0f, []⟩
  | call => ⟨"call", .byte 0x10, [.func]⟩
  | callIndirect => ⟨"call_indirect", .byte 0x11, [.type, .table]⟩
  -- Parametric
  | drop => ⟨"drop", .byte 0x1a, []⟩
  | select => ⟨"select", .byte 0x1b, []⟩
  | selectTyped => ⟨"select", .byte 0x1c, [.valTypes]⟩
  -- Variables and tables
  | localGet => ⟨"local.get", .byte 0x20, [.localVar]⟩
  | localSet => ⟨"local.set", .byte 0x21, [.localVar]⟩
  | localTee => ⟨"local.tee", .byte 0x22, [.localVar]⟩
  | globalGet => ⟨"global.get", .byte 0x23, [.global]⟩
  | globalSet => ⟨"global.set", .byte 0x24, [.global]⟩
  | tableGet => ⟨"table.get", .byte 0x25, [.table]⟩
  | tableSet => ⟨"table.set", .byte 0x26, [.table]⟩
  -- Memory
  | i32Load => ⟨"i32.load", .byte 0x28, [.memArg]⟩
  | i64Load => ⟨"i64.load", .byte 0x29, [.memArg]⟩
  | f32Load => ⟨"f32.load", .byte 0x2a, [.memArg]⟩
  | f64Load => ⟨"f64.load", .byte 0x2b, [.memArg]⟩
  | i32Load8S => ⟨"i32.load8_s", .byte 0x2c, [.memArg]⟩
  | i32Load8U => ⟨"i32.load8_u", .byte 0x2d, [.memArg]⟩
  | i32Load16S => ⟨"i32.load16_s", .byte 0x2e, [.memArg]⟩
  | i32Load16U => ⟨"i32.load16_u", .byte 0x2f, [.memArg]⟩
  | i64Load8S => ⟨"i64.load8_s", .byte 0x30, [.memArg]⟩
  | i64Load8U => ⟨"i64.load8_u", .byte 0x31, [.memArg]⟩
  | i64Load16S => ⟨"i64.load16_s", .byte 0x32, [.memArg]⟩
  | i64Load16U => ⟨"i64.load16_u", .byte 0x33, [.memArg]⟩
  | i64Load32S => ⟨"i64.load32_s", .byte 0x34, [.memArg]⟩
  | i64Load32U => ⟨"i64.load32_u", .byte 0x35, [.memArg]⟩
  | i32Store => ⟨"i32.store", .byte 0x36, [.memArg]⟩
  | i64Store => ⟨"i64.store", .byte 0x37, [.memArg]⟩
  | f32Store => ⟨"f32.store", .byte 0x38, [.memArg]⟩
  | f64Store => ⟨"f64.store", .byte 0x39, [.memArg]⟩
  | i32Store8 => ⟨"i32.store8", .byte 0x3a, [.memArg]⟩
  | i32Store16 => ⟨"i32.store16", .byte 0x3b, [.memArg]⟩
  | i64Store8 => ⟨"i64.store8", .byte 0x3c, [.memArg]⟩
  | i64Store16 => ⟨"i64.store16", .byte 0x3d, [.memArg]⟩
  | i64Store32 => ⟨"i64.store32", .byte 0x3e, [.memArg]⟩
  | memorySize => ⟨"memory.size", .byte 0x3f, [.mem]⟩
  | memoryGrow => ⟨"memory.grow", .byte 0x40, [.mem]⟩
  -- Constants
  | i32Const => ⟨"i32.const", .byte 0x41, [.i32]⟩
  | i64Const => ⟨"i64.const", .byte 0x42, [.i64]⟩
  | f32Const => ⟨"f32.const", .byte 0x43, [.f32]⟩
  | f64Const => ⟨"f64.const", .byte 0x44, [.f64]⟩
  -- Comparisons
  | i32Eqz => ⟨"i32.eqz", .byte 0x45, []⟩
  | i32Eq => ⟨"i32.eq", .byte 0x46, []⟩
  | i32Ne => ⟨"i32.ne", .byte 0x47, []⟩
  | i32LtS => ⟨"i32.lt_s", .byte 0x48, []⟩
  | i32LtU => ⟨"i32.lt_u", .byte 0x49, []⟩
  | i32GtS => ⟨"i32.gt_s", .byte 0x4a, []⟩
  | i32GtU => ⟨"i32.gt_u", .byte 0x4b, []⟩
  | i32LeS => ⟨"i32.le_s", .byte 0x4c, []⟩
  | i32LeU => ⟨"i32.le_u", .byte 0x4d, []⟩
  | i32GeS => ⟨"i32.ge_s", .byte 0x4e, []⟩
  | i32GeU => ⟨"i32.ge_u", .byte 0x4f, []⟩
  | i64Eqz => ⟨"i64.eqz", .byte 0x50, []⟩
  | i64Eq => ⟨"i64.eq", .byte 0x51, []⟩
  | i64Ne => ⟨"i64.ne", .byte 0x52, []⟩
  | i64LtS => ⟨"i64.lt_s", .byte 0x53, []⟩
  | i64LtU => ⟨"i64.lt_u", .byte 0x54, []⟩
  | i64GtS => ⟨"i64.gt_s", .byte 0x55, []⟩
  | i64GtU => ⟨"i64.gt_u", .byte 0x56, []⟩
  | i64LeS => ⟨"i64.le_s", .byte 0x57, []⟩
  | i64LeU => ⟨"i64.le_u", .byte 0x58, []⟩
  | i64GeS => ⟨"i64.ge_s", .byte 0x59, []⟩
  | i64GeU => ⟨"i64.ge_u", .byte 0x5a, []⟩
  | f32Eq => ⟨"f32.eq", .byte 0x5b, []⟩
  | f32Ne => ⟨"f32.ne", .byte 0x5c, []⟩
  | f32Lt => ⟨"f32.lt", .byte 0x5d, []⟩
  | f32Gt => ⟨"f32.gt", .byte 0x5e, []⟩
  | f32Le => ⟨"f32.le", .byte 0x5f, []⟩
  | f32Ge => ⟨"f32.ge", .byte 0x60, []⟩
  | f64Eq => ⟨"f64.eq", .byte 0x61, []⟩
  | f64Ne => ⟨"f64.ne", .byte 0x62, []⟩
  | f64Lt => ⟨"f64.lt", .byte 0x63, []⟩
  | f64Gt => ⟨"f64.gt", .byte 0x64, []⟩
  | f64Le => ⟨"f64.le", .byte 0x65, []⟩
  | f64Ge => ⟨"f64.ge", .byte 0x66, []⟩
  -- Integer arithmetic
  | i32Clz => ⟨"i32.clz", .byte 0x67, []⟩
  | i32Ctz => ⟨"i32.ctz", .byte 0x68, []⟩
  | i32Popcnt => ⟨"i32.popcnt", .byte 0x69, []⟩
  | i32Add => ⟨"i32.add", .byte 0x6a, []⟩
  | i32Sub => ⟨"i32.sub", .byte 0x6b, []⟩
  | i32Mul => ⟨"i32.mul", .byte 0x6c, []⟩
  | i32DivS => ⟨"i32.div_s", .byte 0x6d, []⟩
  | i32DivU => ⟨"i32.div_u", .byte 0x6e, []⟩
  | i32RemS => ⟨"i32.rem_s", .byte 0x6f, []⟩
  | i32RemU => ⟨"i32.rem_u", .byte 0x70, []⟩
  | i32And => ⟨"i32.and", .byte 0x71, []⟩
  | i32Or => ⟨"i32.or", .byte 0x72, []⟩
  | i32Xor => ⟨"i32.xor", .byte 0x73, []⟩
  | i32Shl => ⟨"i32.shl", .byte 0x74, []⟩
  | i32ShrS => ⟨"i32.shr_s", .byte 0x75, []⟩
  | i32ShrU => ⟨"i32.shr_u", .byte 0x76, []⟩
  | i32Rotl => ⟨"i32.rotl", .byte 0x77, []⟩
  | i32Rotr => ⟨"i32.rotr", .byte 0x78, []⟩
  | i64Clz => ⟨"i64.clz", .byte 0x79, []⟩
  | i64Ctz => ⟨"i64.ctz", .byte 0x7a, []⟩
  | i64Popcnt => ⟨"i64.popcnt", .byte 0x7b, []⟩
  | i64Add => ⟨"i64.add", .byte 0x7c, []⟩
  | i64Sub => ⟨"i64.sub", .byte 0x7d, []⟩
  | i64Mul => ⟨"i64.mul", .byte 0x7e, []⟩
  | i64DivS => ⟨"i64.div_s", .byte 0x7f, []⟩
  | i64DivU => ⟨"i64.div_u", .byte 0x80, []⟩
  | i64RemS => ⟨"i64.rem_s", .byte 0x81, []⟩
  | i64RemU => ⟨"i64.rem_u", .byte 0x82, []⟩
  | i64And => ⟨"i64.and", .byte 0x83, []⟩
  | i64Or => ⟨"i64.or", .byte 0x84, []⟩
  | i64Xor => ⟨"i64.xor", .byte 0x85, []⟩
  | i64Shl => ⟨"i64.shl", .byte 0x86, []⟩
  | i64ShrS => ⟨"i64.shr_s", .byte 0x87, []⟩
  | i64ShrU => ⟨"i64.shr_u", .byte 0x88, []⟩
  | i64Rotl => ⟨"i64.rotl", .byte 0x89, []⟩
  | i64Rotr => ⟨"i64.rotr", .byte 0x8a, []⟩
  -- Float arithmetic
  | f32Abs => ⟨"f32.abs", .byte 0x8b, []⟩
  | f32Neg => ⟨"f32.neg", .byte 0x8c, []⟩
  | f32Ceil => ⟨"f32.ceil", .byte 0x8d, []⟩
  | f32Floor => ⟨"f32.floor", .byte 0x8e, []⟩
  | f32Trunc => ⟨"f32.trunc", .byte 0x8f, []⟩
  | f32Nearest => ⟨"f32.nearest", .byte 0x90, []⟩
  | f32Sqrt => ⟨"f32.sqrt", .byte 0x91, []⟩
  | f32Add => ⟨"f32.add", .byte 0x92, []⟩
  | f32Sub => ⟨"f32.sub", .byte 0x93, []⟩
  | f32Mul => ⟨"f32.mul", .byte 0x94, []⟩
  | f32Div => ⟨"f32.div", .byte 0x95, []⟩
  | f32Min => ⟨"f32.min", .byte 0x96, []⟩
  | f32Max => ⟨"f32.max", .byte 0x97, []⟩
  | f32Copysign => ⟨"f32.copysign", .byte 0x98, []⟩
  | f64Abs => ⟨"f64.abs", .byte 0x99, []⟩
  | f64Neg => ⟨"f64.neg", .byte 0x9a, []⟩
  | f64Ceil => ⟨"f64.ceil", .byte 0x9b, []⟩
  | f64Floor => ⟨"f64.floor", .byte 0x9c, []⟩
  | f64Trunc => ⟨"f64.trunc", .byte 0x9d, []⟩
  | f64Nearest => ⟨"f64.nearest", .byte 0x9e, []⟩
  | f64Sqrt => ⟨"f64.sqrt", .byte 0x9f, []⟩
  | f64Add => ⟨"f64.add", .byte 0xa0, []⟩
  | f64Sub => ⟨"f64.sub", .byte 0xa1, []⟩
  | f64Mul => ⟨"f64.mul", .byte 0xa2, []⟩
  | f64Div => ⟨"f64.div", .byte 0xa3, []⟩
  | f64Min => ⟨"f64.min", .byte 0xa4, []⟩
  | f64Max => ⟨"f64.max", .byte 0xa5, []⟩
  | f64Copysign => ⟨"f64.copysign", .byte 0xa6, []⟩
  -- Conversions
  | i32WrapI64 => ⟨"i32.wrap_i64", .byte 0xa7, []⟩
  | i32TruncF32S => ⟨"i32.trunc_f32_s", .byte 0xa8, []⟩
  | i32TruncF32U => ⟨"i32.trunc_f32_u", .byte 0xa9, []⟩
  | i32TruncF64S => ⟨"i32.trunc_f64_s", .byte 0xaa, []⟩
  | i32TruncF64U => ⟨"i32.trunc_f64_u", .byte 0xab, []⟩
  | i64ExtendI32S => ⟨"i64.extend_i32_s", .byte 0xac, []⟩
  | i64ExtendI32U => ⟨"i64.extend_i32_u", .byte 0xad, []⟩
  | i64TruncF32S => ⟨"i64.trunc_f32_s", .byte 0xae, []⟩
  | i64TruncF32U => ⟨"i64.trunc_f32_u", .byte 0xaf, []⟩
  | i64TruncF64S => ⟨"i64.trunc_f64_s", .byte 0xb0, []⟩
  | i64TruncF64U => ⟨"i64.trunc_f64_u", .byte 0xb1, []⟩
  | f32ConvertI32S => ⟨"f32.convert_i32_s", .byte 0xb2, []⟩
  | f32ConvertI32U => ⟨"f32.convert_i32_u", .byte 0xb3, []⟩
  | f32ConvertI64S => ⟨"f32.convert_i64_s", .byte 0xb4, []⟩
  | f32ConvertI64U => ⟨"f32.convert_i64_u", .byte 0xb5, []⟩
  | f32DemoteF64 => ⟨"f32.demote_f64", .byte 0xb6, []⟩
  | f64ConvertI32S => ⟨"f64.convert_i32_s", .byte 0xb7, []⟩
  | f64ConvertI32U => ⟨"f64.convert_i32_u", .byte 0xb8, []⟩
  | f64ConvertI64S => ⟨"f64.convert_i64_s", .byte 0xb9, []⟩
  | f64ConvertI64U => ⟨"f64.convert_i64_u", .byte 0xba, []⟩
  | f64PromoteF32 => ⟨"f64.promote_f32", .byte 0xbb, []⟩
  | i32ReinterpretF32 => ⟨"i32.reinterpret_f32", .byte 0xbc, []⟩
  | i64ReinterpretF64 => ⟨"i64.reinterpret_f64", .byte 0xbd, []⟩
  | f32ReinterpretI32 => ⟨"f32.reinterpret_i32", .byte 0xbe, []⟩
  | f64ReinterpretI64 => ⟨"f64.reinterpret_i64", .byte 0xbf, []⟩
  | i32Extend8S => ⟨"i32.extend8_s", .byte 0xc0, []⟩
  | i32Extend16S => ⟨"i32.extend16_s", .byte 0xc1, []⟩
  | i64Extend8S => ⟨"i64.extend8_s", .byte 0xc2, []⟩
  | i64Extend16S => ⟨"i64.extend16_s", .byte 0xc3, []⟩
  | i64Extend32S => ⟨"i64.extend32_s", .byte 0xc4, []⟩
  -- References
  | refNull => ⟨"ref.null", .byte 0xd0, [.refType]⟩
  | refIsNull => ⟨"ref.is_null", .byte 0xd1, []⟩
  | refFunc => ⟨"ref.func", .byte 0xd2, [.func]⟩
  -- Saturating conversions
  | i32TruncSatF32S => ⟨"i32.trunc_sat_f32_s", .misc 0x00, []⟩
  | i32TruncSatF32U => ⟨"i32.trunc_sat_f32_u", .misc 0x01, []⟩
  | i32TruncSatF64S => ⟨"i32.trunc_sat_f64_s", .misc 0x02, []⟩
  | i32TruncSatF64U => ⟨"i32.trunc_sat_f64_u", .misc 0x03, []⟩
  | i64TruncSatF32S => ⟨"i64.trunc_sat_f32_s", .misc 0x04, []⟩
  | i64TruncSatF32U => ⟨"i64.trunc_sat_f32_u", .misc 0x05, []⟩
  | i64TruncSatF64S => ⟨"i64.trunc_sat_f64_s", .misc 0x06, []⟩
  | i64TruncSatF64U => ⟨"i64.trunc_sat_f64_u", .misc 0x07, []⟩
  -- Bulk memory and tables
  | memoryInit => ⟨"memory.init", .misc 0x08, [.data, .mem]⟩
  | dataDrop => ⟨"data.drop", .misc 0x09, [.data]⟩
  | memoryCopy => ⟨"memory.copy", .misc 0x0a, [.mem, .mem]⟩
  | memoryFill => ⟨"memory.fill", .misc 0x0b, [.mem]⟩
  | tableInit => ⟨"table.init", .misc 0x0c, [.elem, .table]⟩
  | elemDrop => ⟨"elem.drop", .misc 0x0d, [.elem]⟩
  | tableCopy => ⟨"table.copy", .misc 0x0e, [.table, .table]⟩
  | tableGrow => ⟨"table.grow", .misc 0x0f, [.table]⟩
  | tableSize => ⟨"table.size", .misc 0x10, [.table]⟩
  | tableFill => ⟨"table.fill", .misc 0x11, [.table]⟩
  -- Vector memory and constants
  | v128Load => ⟨"v128.load", .simd 0x00, [.memArg]⟩
  | v128Load8x8S => ⟨"v128.load8x8_s", .simd 0x01, [.memArg]⟩
  | v128Load8x8U => ⟨"v128.load8x8_u", .simd 0x02, [.memArg]⟩
  | v128Load16x4S => ⟨"v128.load16x4_s", .simd 0x03, [.memArg]⟩
  | v128Load16x4U => ⟨"v128.load16x4_u", .simd 0x04, [.memArg]⟩
  | v128Load32x2S => ⟨"v128.load32x2_s", .simd 0x05, [.memArg]⟩
  | v128Load32x2U => ⟨"v128.load32x2_u", .simd 0x06, [.memArg]⟩
  | v128Load8Splat => ⟨"v128.load8_splat", .simd 0x07, [.memArg]⟩
  | v128Load16Splat => ⟨"v128.load16_splat", .simd 0x08, [.memArg]⟩
  | v128Load32Splat => ⟨"v128.load32_splat", .simd 0x09, [.memArg]⟩
  | v128Load64Splat => ⟨"v128.load64_splat", .simd 0x0a, [.memArg]⟩
  | v128Store => ⟨"v128.store", .simd 0x0b, [.memArg]⟩
  | v128Const => ⟨"v128.const", .simd 0x0c, [.v128]⟩
  -- Lanes
  | i8x16Shuffle => ⟨"i8x16.shuffle", .simd 0x0d, [.lanes]⟩
  | i8x16Swizzle => ⟨"i8x16.swizzle", .simd 0x0e, []⟩
  | i8x16Splat => ⟨"i8x16.splat", .simd 0x0f, []⟩
  | i16x8Splat => ⟨"i16x8.splat", .simd 0x10, []⟩
  | i32x4Splat => ⟨"i32x4.splat", .simd 0x11, []⟩
  | i64x2Splat => ⟨"i64x2.splat", .simd 0x12, []⟩
  | f32x4Splat => ⟨"f32x4.splat", .simd 0x13, []⟩
  | f64x2Splat => ⟨"f64x2.splat", .simd 0x14, []⟩
  | i8x16ExtractLaneS => ⟨"i8x16.extract_lane_s", .simd 0x15, [.lane]⟩
  | i8x16ExtractLaneU => ⟨"i8x16.extract_lane_u", .simd 0x16, [.lane]⟩
  | i8x16ReplaceLane => ⟨"i8x16.replace_lane", .simd 0x17, [.lane]⟩
  | i16x8ExtractLaneS => ⟨"i16x8.extract_lane_s", .simd 0x18, [.lane]⟩
  | i16x8ExtractLaneU => ⟨"i16x8.extract_lane_u", .simd 0x19, [.lane]⟩
  | i16x8ReplaceLane => ⟨"i16x8.replace_lane", .simd 0x1a, [.lane]⟩
  | i32x4ExtractLane => ⟨"i32x4.extract_lane", .simd 0x1b, [.lane]⟩
  | i32x4ReplaceLane => ⟨"i32x4.replace_lane", .simd 0x1c, [.lane]⟩
  | i64x2ExtractLane => ⟨"i64x2.extract_lane", .simd 0x1d, [.lane]⟩
  | i64x2ReplaceLane => ⟨"i64x2.replace_lane", .simd 0x1e, [.lane]⟩
  | f32x4ExtractLane => ⟨"f32x4.extract_lane", .simd 0x1f, [.lane]⟩
  | f32x4ReplaceLane => ⟨"f32x4.replace_lane", .simd 0x20, [.lane]⟩
  | f64x2ExtractLane => ⟨"f64x2.extract_lane", .simd 0x21, [.lane]⟩
  | f64x2ReplaceLane => ⟨"f64x2.replace_lane", .simd 0x22, [.lane]⟩
  -- Vector comparisons
  | i8x16Eq => ⟨"i8x16.eq", .simd 0x23, []⟩
  | i8x16Ne => ⟨"i8x16.ne", .simd 0x24, []⟩
  | i8x16LtS => ⟨"i8x16.lt_s", .simd 0x25, []⟩
  | i8x16LtU => ⟨"i8x16.lt_u", .simd 0x26, []⟩
  | i8x16GtS => ⟨"i8x16.gt_s", .simd 0x27, []⟩
  | i8x16GtU => ⟨"i8x16.gt_u", .simd 0x28, []⟩
  | i8x16LeS => ⟨"i8x16.le_s", .simd 0x29, []⟩
  | i8x16LeU => ⟨"i8x16.le_u", .simd 0x2a, []⟩
  | i8x16GeS => ⟨"i8x16.ge_s", .simd 0x2b, []⟩
  | i8x16GeU => ⟨"i8x16.ge_u", .simd 0x2c, []⟩
  | i16x8Eq => ⟨"i16x8.eq", .simd 0x2d, []⟩
  | i16x8Ne => ⟨"i16x8.ne", .simd 0x2e, []⟩
  | i16x8LtS => ⟨"i16x8.lt_s", .simd 0x2f, []⟩
  | i16x8LtU => ⟨"i16x8.lt_u", .simd 0x30, []⟩
  | i16x8GtS => ⟨"i16x8.gt_s", .simd 0x31, []⟩
  | i16x8GtU => ⟨"i16x8.gt_u", .simd 0x32, []⟩
  | i16x8LeS => ⟨"i16x8.le_s", .simd 0x33, []⟩
  | i16x8LeU => ⟨"i16x8.le_u", .simd 0x34, []⟩
  | i16x8GeS => ⟨"i16x8.ge_s", .simd 0x35, []⟩
  | i16x8GeU => ⟨"i16x8.ge_u", .simd 0x36, []⟩
  | i32x4Eq => ⟨"i32x4.eq", .simd 0x37, []⟩
  | i32x4Ne => ⟨"i32x4.ne", .simd 0x38, []⟩
  | i32x4LtS => ⟨"i32x4.lt_s", .simd 0x39, []⟩
  | i32x4LtU => ⟨"i32x4.lt_u", .simd 0x3a, []⟩
  | i32x4GtS => ⟨"i32x4.gt_s", .simd 0x3b, []⟩
  | i32x4GtU => ⟨"i32x4.gt_u", .simd 0x3c, []⟩
  | i32x4LeS => ⟨"i32x4.le_s", .simd 0x3d, []⟩
  | i32x4LeU => ⟨"i32x4.le_u", .simd 0x3e, []⟩
  | i32x4GeS => ⟨"i32x4.ge_s", .simd 0x3f, []⟩
  | i32x4GeU => ⟨"i32x4.ge_u", .simd 0x40, []⟩
  | f32x4Eq => ⟨"f32x4.eq", .simd 0x41, []⟩
  | f32x4Ne => ⟨"f32x4.ne", .simd 0x42, []⟩
  | f32x4Lt => ⟨"f32x4.lt", .simd 0x43, []⟩
  | f32x4Gt => ⟨"f32x4.gt", .simd 0x44, []⟩
  | f32x4Le => ⟨"f32x4.le", .simd 0x45, []⟩
  | f32x4Ge => ⟨"f32x4.ge", .simd 0x46, []⟩
  | f64x2Eq => ⟨"f64x2.eq", .simd 0x47, []⟩
  | f64x2Ne => ⟨"f64x2.ne", .simd 0x48, []⟩
  | f64x2Lt => ⟨"f64x2.lt", .simd 0x49, []⟩
  | f64x2Gt => ⟨"f64x2.gt", .simd 0x4a, []⟩
  | f64x2Le => ⟨"f64x2.le", .simd 0x4b, []⟩
  | f64x2Ge => ⟨"f64x2.ge", .simd 0x4c, []⟩
  -- Bitwise vector operations
  | v128Not => ⟨"v128.not", .simd 0x4d, []⟩
  | v128And => ⟨"v128.and", .simd 0x4e, []⟩
  | v128Andnot => ⟨"v128.andnot", .simd 0x4f, []⟩
  | v128Or => ⟨"v128.or", .simd 0x50, []⟩
  | v128Xor => ⟨"v128.xor", .simd 0x51, []⟩
  | v128Bitselect => ⟨"v128.bitselect", .simd 0x52, []⟩
  | v128AnyTrue => ⟨"v128.any_true", .simd 0x53, []⟩
  -- Lane memory access
  | v128Load8Lane => ⟨"v128.load8_lane", .simd 0x54, [.memArg, .lane]⟩
  | v128Load16Lane => ⟨"v128.load16_lane", .simd 0x55, [.memArg, .lane]⟩
  | v128Load32Lane => ⟨"v128.load32_lane", .simd 0x56, [.memArg, .lane]⟩
  | v128Load64Lane => ⟨"v128.load64_lane", .simd 0x57, [.memArg, .lane]⟩
  | v128Store8Lane => ⟨"v128.store8_lane", .simd 0x58, [.memArg, .lane]⟩
  | v128Store16Lane => ⟨"v128.store16_lane", .simd 0x59, [.memArg, .lane]⟩
  | v128Store32Lane => ⟨"v128.store32_lane", .simd 0x5a, [.memArg, .lane]⟩
  | v128Store64Lane => ⟨"v128.store64_lane", .simd 0x5b, [.memArg, .lane]⟩
  | v128Load32Zero => ⟨"v128.load32_zero", .simd 0x5c, [.memArg]⟩
  | v128Load64Zero => ⟨"v128.load64_zero", .simd 0x5d, [.memArg]⟩
  -- Vector arithmetic
  | f32x4DemoteF64x2Zero => ⟨"f32x4.demote_f64x2_zero", .simd 0x5e, []⟩
  | f64x2PromoteLowF32x4 => ⟨"f64x2.promote_low_f32x4", .simd 0x5f, []⟩
  | i8x16Abs => ⟨"i8x16.abs", .simd 0x60, []⟩
  | i8x16Neg => ⟨"i8x16.neg", .simd 0x61, []⟩
  | i8x16Popcnt => ⟨"i8x16.popcnt", .simd 0x62, []⟩
  | i8x16AllTrue => ⟨"i8x16.all_true", .simd 0x63, []⟩
  | i8x16Bitmask => ⟨"i8x16.bitmask", .simd 0x64, []⟩
  | i8x16NarrowI16x8S => ⟨"i8x16.narrow_i16x8_s", .simd 0x65, []⟩
  | i8x16NarrowI16x8U => ⟨"i8x16.narrow_i16x8_u", .simd 0x66, []⟩
  | f32x4Ceil => ⟨"f32x4.ceil", .simd 0x67, []⟩
  | f32x4Floor => ⟨"f32x4.floor", .simd 0x68, []⟩
  | f32x4Trunc => ⟨"f32x4.trunc", .simd 0x69, []⟩
  | f32x4Nearest => ⟨"f32x4.nearest", .simd 0x6a, []⟩
  | i8x16Shl => ⟨"i8x16.shl", .simd 0x6b, []⟩
  | i8x16ShrS => ⟨"i8x16.shr_s", .simd 0x6c, []⟩
  | i8x16ShrU => ⟨"i8x16.shr_u", .simd 0x6d, []⟩
  | i8x16Add => ⟨"i8x16.add", .simd 0x6e, []⟩
  | i8x16AddSatS => ⟨"i8x16.add_sat_s", .simd 0x6f, []⟩
  | i8x16AddSatU => ⟨"i8x16.add_sat_u", .simd 0x70, []⟩
  | i8x16Sub => ⟨"i8x16.sub", .simd 0x71, []⟩
  | i8x16SubSatS => ⟨"i8x16.sub_sat_s", .simd 0x72, []⟩
  | i8x16SubSatU => ⟨"i8x16.sub_sat_u", .simd 0x73, []⟩
  | f64x2Ceil => ⟨"f64x2.ceil", .simd 0x74, []⟩
  | f64x2Floor => ⟨"f64x2.floor", .simd 0x75, []⟩
  | i8x16MinS => ⟨"i8x16.min_s", .simd 0x76, []⟩
  | i8x16MinU => ⟨"i8x16.min_u", .simd 0x77, []⟩
  | i8x16MaxS => ⟨"i8x16.max_s", .simd 0x78, []⟩
  | i8x16MaxU => ⟨"i8x16.max_u", .simd 0x79, []⟩
  | f64x2Trunc => ⟨"f64x2.trunc", .simd 0x7a, []⟩
  | i8x16AvgrU => ⟨"i8x16.avgr_u", .simd 0x7b, []⟩
  | i16x8ExtaddPairwiseI8x16S => ⟨"i16x8.extadd_pairwise_i8x16_s", .simd 0x7c, []⟩
  | i16x8ExtaddPairwiseI8x16U => ⟨"i16x8.extadd_pairwise_i8x16_u", .simd 0x7d, []⟩
  | i32x4ExtaddPairwiseI16x8S => ⟨"i32x4.extadd_pairwise_i16x8_s", .simd 0x7e, []⟩
  | i32x4ExtaddPairwiseI16x8U => ⟨"i32x4.extadd_pairwise_i16x8_u", .simd 0x7f, []⟩
  | i16x8Abs => ⟨"i16x8.abs", .simd 0x80, []⟩
  | i16x8Neg => ⟨"i16x8.neg", .simd 0x81, []⟩
  | i16x8Q15mulrSatS => ⟨"i16x8.q15mulr_sat_s", .simd 0x82, []⟩
  | i16x8AllTrue => ⟨"i16x8.all_true", .simd 0x83, []⟩
  | i16x8Bitmask => ⟨"i16x8.bitmask", .simd 0x84, []⟩
  | i16x8NarrowI32x4S => ⟨"i16x8.narrow_i32x4_s", .simd 0x85, []⟩
  | i16x8NarrowI32x4U => ⟨"i16x8.narrow_i32x4_u", .simd 0x86, []⟩
  | i16x8ExtendLowI8x16S => ⟨"i16x8.extend_low_i8x16_s", .simd 0x87, []⟩
  | i16x8ExtendHighI8x16S => ⟨"i16x8.extend_high_i8x16_s", .simd 0x88, []⟩
  | i16x8ExtendLowI8x16U => ⟨"i16x8.extend_low_i8x16_u", .simd 0x89, []⟩
  | i16x8ExtendHighI8x16U => ⟨"i16x8.extend_high_i8x16_u", .simd 0x8a, []⟩
  | i16x8Shl => ⟨"i16x8.shl", .simd 0x8b, []⟩
  | i16x8ShrS => ⟨"i16x8.shr_s", .simd 0x8c, []⟩
  | i16x8ShrU => ⟨"i16x8.shr_u", .simd 0x8d, []⟩
  | i16x8Add => ⟨"i16x8.add", .simd 0x8e, []⟩
  | i16x8AddSatS => ⟨"i16x8.add_sat_s", .simd 0x8f, []⟩
  | i16x8AddSatU => ⟨"i16x8.add_sat_u", .simd 0x90, []⟩
  | i16x8Sub => ⟨"i16x8.sub", .simd 0x91, []⟩
  | i16x8SubSatS => ⟨"i16x8.sub_sat_s", .simd 0x92, []⟩
  | i16x8SubSatU => ⟨"i16x8.sub_sat_u", .simd 0x93, []⟩
  | f64x2Nearest => ⟨"f64x2.nearest", .simd 0x94, []⟩
  | i16x8Mul => ⟨"i16x8.mul", .simd 0x95, []⟩
  | i16x8MinS => ⟨"i16x8.min_s", .simd 0x96, []⟩
  | i16x8MinU => ⟨"i16x8.min_u", .simd 0x97, []⟩
  | i16x8MaxS => ⟨"i16x8.max_s", .simd 0x98, []⟩
  | i16x8MaxU => ⟨"i16x8.max_u", .simd 0x99, []⟩
  | i16x8AvgrU => ⟨"i16x8.avgr_u", .simd 0x9b, []⟩
  | i16x8ExtmulLowI8x16S => ⟨"i16x8.extmul_low_i8x16_s", .simd 0x9c, []⟩
  | i16x8ExtmulHighI8x16S => ⟨"i16x8.extmul_high_i8x16_s", .simd 0x9d, []⟩
  | i16x8ExtmulLowI8x16U => ⟨"i16x8.extmul_low_i8x16_u", .simd 0x9e, []⟩
  | i16x8ExtmulHighI8x16U => ⟨"i16x8.extmul_high_i8x16_u", .simd 0x9f, []⟩
  | i32x4Abs => ⟨"i32x4.abs", .simd 0xa0, []⟩
  | i32x4Neg => ⟨"i32x4.neg", .simd 0xa1, []⟩
  | i32x4AllTrue => ⟨"i32x4.all_true", .simd 0xa3, []⟩
  | i32x4Bitmask => ⟨"i32x4.bitmask", .simd 0xa4, []⟩
  | i32x4ExtendLowI16x8S => ⟨"i32x4.extend_low_i16x8_s", .simd 0xa7, []⟩
  | i32x4ExtendHighI16x8S => ⟨"i32x4.extend_high_i16x8_s", .simd 0xa8, []⟩
  | i32x4ExtendLowI16x8U => ⟨"i32x4.extend_low_i16x8_u", .simd 0xa9, []⟩
  | i32x4ExtendHighI16x8U => ⟨"i32x4.extend_high_i16x8_u", .simd 0xaa, []⟩
  | i32x4Shl => ⟨"i32x4.shl", .simd 0xab, []⟩
  | i32x4ShrS => ⟨"i32x4.shr_s", .simd 0xac, []⟩
  | i32x4ShrU => ⟨"i32x4.shr_u", .simd 0xad, []⟩
  | i32x4Add => ⟨"i32x4.add", .simd 0xae, []⟩
  | i32x4Sub => ⟨"i32x4.sub", .simd 0xb1, []⟩
  | i32x4Mul => ⟨"i32x4.mul", .simd 0xb5, []⟩
  | i32x4MinS => ⟨"i32x4.min_s", .simd 0xb6, []⟩
  | i32x4MinU => ⟨"i32x4.min_u", .simd 0xb7, []⟩
  | i32x4MaxS => ⟨"i32x4.max_s", .simd 0xb8, []⟩
  | i32x4MaxU => ⟨"i32x4.max_u", .simd 0xb9, []⟩
  | i32x4DotI16x8S => ⟨"i32x4.dot_i16x8_s", .simd 0xba, []⟩
  | i32x4ExtmulLowI16x8S => ⟨"i32x4.extmul_low_i16x8_s", .simd 0xbc, []⟩
  | i32x4ExtmulHighI16x8S => ⟨"i32x4.extmul_high_i16x8_s", .simd 0xbd, []⟩
  | i32x4ExtmulLowI16x8U => ⟨"i32x4.extmul_low_i16x8_u", .simd 0xbe, []⟩
  | i32x4ExtmulHighI16x8U => ⟨"i32x4.extmul_high_i16x8_u", .simd 0xbf, []⟩
  | i64x2Abs => ⟨"i64x2.abs", .simd 0xc0, []⟩
  | i64x2Neg => ⟨"i64x2.neg", .simd 0xc1, []⟩
  | i64x2AllTrue => ⟨"i64x2.all_true", .simd 0xc3, []⟩
  | i64x2Bitmask => ⟨"i64x2.bitmask", .simd 0xc4, []⟩
  | i64x2ExtendLowI32x4S => ⟨"i64x2.extend_low_i32x4_s", .simd 0xc7, []⟩
  | i64x2ExtendHighI32x4S => ⟨"i64x2.extend_high_i32x4_s", .simd 0xc8, []⟩
  | i64x2ExtendLowI32x4U => ⟨"i64x2.extend_low_i32x4_u", .simd 0xc9, []⟩
  | i64x2ExtendHighI32x4U => ⟨"i64x2.extend_high_i32x4_u", .simd 0xca, []⟩
  | i64x2Shl => ⟨"i64x2.shl", .simd 0xcb, []⟩
  | i64x2ShrS => ⟨"i64x2.shr_s", .simd 0xcc, []⟩
  | i64x2ShrU => ⟨"i64x2.shr_u", .simd 0xcd, []⟩
  | i64x2Add => ⟨"i64x2.add", .simd 0xce, []⟩
  | i64x2Sub => ⟨"i64x2.sub", .simd 0xd1, []⟩
  | i64x2Mul => ⟨"i64x2.mul", .simd 0xd5, []⟩
  | i64x2Eq => ⟨"i64x2.eq", .simd 0xd6, []⟩
  | i64x2Ne => ⟨"i64x2.ne", .simd 0xd7, []⟩
  | i64x2LtS => ⟨"i64x2.lt_s", .simd 0xd8, []⟩
  | i64x2GtS => ⟨"i64x2.gt_s", .simd 0xd9, []⟩
  | i64x2LeS => ⟨"i64x2.le_s", .simd 0xda, []⟩
  | i64x2GeS => ⟨"i64x2.ge_s", .simd 0xdb, []⟩
  | i64x2ExtmulLowI32x4S => ⟨"i64x2.extmul_low_i32x4_s", .simd 0xdc, []⟩
  | i64x2ExtmulHighI32x4S => ⟨"i64x2.extmul_high_i32x4_s", .simd 0xdd, []⟩
  | i64x2ExtmulLowI32x4U => ⟨"i64x2.extmul_low_i32x4_u", .simd 0xde, []⟩
  | i64x2ExtmulHighI32x4U => ⟨"i64x2.extmul_high_i32x4_u", .simd 0xdf, []⟩
  | f32x4Abs => ⟨"f32x4.abs", .simd 0xe0, []⟩
  | f32x4Neg => ⟨"f32x4.neg", .simd 0xe1, []⟩
  | f32x4Sqrt => ⟨"f32x4.sqrt", .simd 0xe3, []⟩
  | f32x4Add => ⟨"f32x4.add", .simd 0xe4, []⟩
  | f32x4Sub => ⟨"f32x4.sub", .simd 0xe5, []⟩
  | f32x4Mul => ⟨"f32x4.mul", .simd 0xe6, []⟩
  | f32x4Div => ⟨"f32x4.div", .simd 0xe7, []⟩
  | f32x4Min => ⟨"f32x4.min", .simd 0xe8, []⟩
  | f32x4Max => ⟨"f32x4.max", .simd 0xe9, []⟩
  | f32x4Pmin => ⟨"f32x4.pmin", .simd 0xea, []⟩
  | f32x4Pmax => ⟨"f32x4.pmax", .simd 0xeb, []⟩
  | f64x2Abs => ⟨"f64x2.abs", .simd 0xec, []⟩
  | f64x2Neg => ⟨"f64x2.neg", .simd 0xed, []⟩
  | f64x2Sqrt => ⟨"f64x2.sqrt", .simd 0xef, []⟩
  | f64x2Add => ⟨"f64x2.add", .simd 0xf0, []⟩
  | f64x2Sub => ⟨"f64x2.sub", .simd 0xf1, []⟩
  | f64x2Mul => ⟨"f64x2.mul", .simd 0xf2, []⟩
  | f64x2Div => ⟨"f64x2.div", .simd 0xf3, []⟩
  | f64x2Min => ⟨"f64x2.min", .simd 0xf4, []⟩
  | f64x2Max => ⟨"f64x2.max", .simd 0xf5, []⟩
  | f64x2Pmin => ⟨"f64x2.pmin", .simd 0xf6, []⟩
  | f64x2Pmax => ⟨"f64x2.pmax", .simd 0xf7, []⟩
  -- Vector conversions
  | i32x4TruncSatF32x4S => ⟨"i32x4.trunc_sat_f32x4_s", .simd 0xf8, []⟩
  | i32x4TruncSatF32x4U => ⟨"i32x4.trunc_sat_f32x4_u", .simd 0xf9, []⟩
  | f32x4ConvertI32x4S => ⟨"f32x4.convert_i32x4_s", .simd 0xfa, []⟩
  | f32x4ConvertI32x4U => ⟨"f32x4.convert_i32x4_u", .simd 0xfb, []⟩
  | i32x4TruncSatF64x2SZero => ⟨"i32x4.trunc_sat_f64x2_s_zero", .simd 0xfc, []⟩
  | i32x4TruncSatF64x2UZero => ⟨"i32x4.trunc_sat_f64x2_u_zero", .simd 0xfd, []⟩
  | f64x2ConvertLowI32x4S => ⟨"f64x2.convert_low_i32x4_s", .simd 0xfe, []⟩
  | f64x2ConvertLowI32x4U => ⟨"f64x2.convert_low_i32x4_u", .simd 0xff, []⟩

/-- The operator's name in the text format. The two forms of `select` share theirs. -/
def name (o : Operator) : String := o.entry.name

/-- What an instruction with this operator starts with. -/
def opcode (o : Operator) : Opcode := o.entry.opcode

/-- The kinds of the immediates that the operator takes. -/
def kinds (o : Operator) : List ImmediateKind := o.entry.kinds

/-- Whether the operator refers to a data segment, so that the module has to announce their
number. -/
def usesData (o : Operator) : Bool := o == memoryInit || o == dataDrop

/-- All operators, in the order of the table. -/
def all : List Operator := [
  -- Control
  unreachable, nop, block, loop, ifBranch, elseBranch, endBlock, br, brIf, brTable, returnValues,
  call, callIndirect,
  -- Parametric
  drop, select, selectTyped,
  -- Variables and tables
  localGet, localSet, localTee, globalGet, globalSet, tableGet, tableSet,
  -- Memory
  i32Load, i64Load, f32Load, f64Load, i32Load8S, i32Load8U, i32Load16S, i32Load16U, i64Load8S,
  i64Load8U, i64Load16S, i64Load16U, i64Load32S, i64Load32U, i32Store, i64Store, f32Store,
  f64Store, i32Store8, i32Store16, i64Store8, i64Store16, i64Store32, memorySize, memoryGrow,
  -- Constants
  i32Const, i64Const, f32Const, f64Const,
  -- Comparisons
  i32Eqz, i32Eq, i32Ne, i32LtS, i32LtU, i32GtS, i32GtU, i32LeS, i32LeU, i32GeS, i32GeU, i64Eqz,
  i64Eq, i64Ne, i64LtS, i64LtU, i64GtS, i64GtU, i64LeS, i64LeU, i64GeS, i64GeU, f32Eq, f32Ne,
  f32Lt, f32Gt, f32Le, f32Ge, f64Eq, f64Ne, f64Lt, f64Gt, f64Le, f64Ge,
  -- Integer arithmetic
  i32Clz, i32Ctz, i32Popcnt, i32Add, i32Sub, i32Mul, i32DivS, i32DivU, i32RemS, i32RemU, i32And,
  i32Or, i32Xor, i32Shl, i32ShrS, i32ShrU, i32Rotl, i32Rotr, i64Clz, i64Ctz, i64Popcnt, i64Add,
  i64Sub, i64Mul, i64DivS, i64DivU, i64RemS, i64RemU, i64And, i64Or, i64Xor, i64Shl, i64ShrS,
  i64ShrU, i64Rotl, i64Rotr,
  -- Float arithmetic
  f32Abs, f32Neg, f32Ceil, f32Floor, f32Trunc, f32Nearest, f32Sqrt, f32Add, f32Sub, f32Mul,
  f32Div, f32Min, f32Max, f32Copysign, f64Abs, f64Neg, f64Ceil, f64Floor, f64Trunc, f64Nearest,
  f64Sqrt, f64Add, f64Sub, f64Mul, f64Div, f64Min, f64Max, f64Copysign,
  -- Conversions
  i32WrapI64, i32TruncF32S, i32TruncF32U, i32TruncF64S, i32TruncF64U, i64ExtendI32S,
  i64ExtendI32U, i64TruncF32S, i64TruncF32U, i64TruncF64S, i64TruncF64U, f32ConvertI32S,
  f32ConvertI32U, f32ConvertI64S, f32ConvertI64U, f32DemoteF64, f64ConvertI32S, f64ConvertI32U,
  f64ConvertI64S, f64ConvertI64U, f64PromoteF32, i32ReinterpretF32, i64ReinterpretF64,
  f32ReinterpretI32, f64ReinterpretI64, i32Extend8S, i32Extend16S, i64Extend8S, i64Extend16S,
  i64Extend32S,
  -- References
  refNull, refIsNull, refFunc,
  -- Saturating conversions
  i32TruncSatF32S, i32TruncSatF32U, i32TruncSatF64S, i32TruncSatF64U, i64TruncSatF32S,
  i64TruncSatF32U, i64TruncSatF64S, i64TruncSatF64U,
  -- Bulk memory and tables
  memoryInit, dataDrop, memoryCopy, memoryFill, tableInit, elemDrop, tableCopy, tableGrow,
  tableSize, tableFill,
  -- Vector memory and constants
  v128Load, v128Load8x8S, v128Load8x8U, v128Load16x4S, v128Load16x4U, v128Load32x2S,
  v128Load32x2U, v128Load8Splat, v128Load16Splat, v128Load32Splat, v128Load64Splat, v128Store,
  v128Const,
  -- Lanes
  i8x16Shuffle, i8x16Swizzle, i8x16Splat, i16x8Splat, i32x4Splat, i64x2Splat, f32x4Splat,
  f64x2Splat, i8x16ExtractLaneS, i8x16ExtractLaneU, i8x16ReplaceLane, i16x8ExtractLaneS,
  i16x8ExtractLaneU, i16x8ReplaceLane, i32x4ExtractLane, i32x4ReplaceLane, i64x2ExtractLane,
  i64x2ReplaceLane, f32x4ExtractLane, f32x4ReplaceLane, f64x2ExtractLane, f64x2ReplaceLane,
  -- Vector comparisons
  i8x16Eq, i8x16Ne, i8x16LtS, i8x16LtU, i8x16GtS, i8x16GtU, i8x16LeS, i8x16LeU, i8x16GeS,
  i8x16GeU, i16x8Eq, i16x8Ne, i16x8LtS, i16x8LtU, i16x8GtS, i16x8GtU, i16x8LeS, i16x8LeU,
  i16x8GeS, i16x8GeU, i32x4Eq, i32x4Ne, i32x4LtS, i32x4LtU, i32x4GtS, i32x4GtU, i32x4LeS,
  i32x4LeU, i32x4GeS, i32x4GeU, f32x4Eq, f32x4Ne, f32x4Lt, f32x4Gt, f32x4Le, f32x4Ge, f64x2Eq,
  f64x2Ne, f64x2Lt, f64x2Gt, f64x2Le, f64x2Ge,
  -- Bitwise vector operations
  v128Not, v128And, v128Andnot, v128Or, v128Xor, v128Bitselect, v128AnyTrue,
  -- Lane memory access
  v128Load8Lane, v128Load16Lane, v128Load32Lane, v128Load64Lane, v128Store8Lane, v128Store16Lane,
  v128Store32Lane, v128Store64Lane, v128Load32Zero, v128Load64Zero,
  -- Vector arithmetic
  f32x4DemoteF64x2Zero, f64x2PromoteLowF32x4, i8x16Abs, i8x16Neg, i8x16Popcnt, i8x16AllTrue,
  i8x16Bitmask, i8x16NarrowI16x8S, i8x16NarrowI16x8U, f32x4Ceil, f32x4Floor, f32x4Trunc,
  f32x4Nearest, i8x16Shl, i8x16ShrS, i8x16ShrU, i8x16Add, i8x16AddSatS, i8x16AddSatU, i8x16Sub,
  i8x16SubSatS, i8x16SubSatU, f64x2Ceil, f64x2Floor, i8x16MinS, i8x16MinU, i8x16MaxS, i8x16MaxU,
  f64x2Trunc, i8x16AvgrU, i16x8ExtaddPairwiseI8x16S, i16x8ExtaddPairwiseI8x16U,
  i32x4ExtaddPairwiseI16x8S, i32x4ExtaddPairwiseI16x8U, i16x8Abs, i16x8Neg, i16x8Q15mulrSatS,
  i16x8AllTrue, i16x8Bitmask, i16x8NarrowI32x4S, i16x8NarrowI32x4U, i16x8ExtendLowI8x16S,
  i16x8ExtendHighI8x16S, i16x8ExtendLowI8x16U, i16x8ExtendHighI8x16U, i16x8Shl, i16x8ShrS,
  i16x8ShrU, i16x8Add, i16x8AddSatS, i16x8AddSatU, i16x8Sub, i16x8SubSatS, i16x8SubSatU,
  f64x2Nearest, i16x8Mul, i16x8MinS, i16x8MinU, i16x8MaxS, i16x8MaxU, i16x8AvgrU,
  i16x8ExtmulLowI8x16S, i16x8ExtmulHighI8x16S, i16x8ExtmulLowI8x16U, i16x8ExtmulHighI8x16U,
  i32x4Abs, i32x4Neg, i32x4AllTrue, i32x4Bitmask, i32x4ExtendLowI16x8S, i32x4ExtendHighI16x8S,
  i32x4ExtendLowI16x8U, i32x4ExtendHighI16x8U, i32x4Shl, i32x4ShrS, i32x4ShrU, i32x4Add, i32x4Sub,
  i32x4Mul, i32x4MinS, i32x4MinU, i32x4MaxS, i32x4MaxU, i32x4DotI16x8S, i32x4ExtmulLowI16x8S,
  i32x4ExtmulHighI16x8S, i32x4ExtmulLowI16x8U, i32x4ExtmulHighI16x8U, i64x2Abs, i64x2Neg,
  i64x2AllTrue, i64x2Bitmask, i64x2ExtendLowI32x4S, i64x2ExtendHighI32x4S, i64x2ExtendLowI32x4U,
  i64x2ExtendHighI32x4U, i64x2Shl, i64x2ShrS, i64x2ShrU, i64x2Add, i64x2Sub, i64x2Mul, i64x2Eq,
  i64x2Ne, i64x2LtS, i64x2GtS, i64x2LeS, i64x2GeS, i64x2ExtmulLowI32x4S, i64x2ExtmulHighI32x4S,
  i64x2ExtmulLowI32x4U, i64x2ExtmulHighI32x4U, f32x4Abs, f32x4Neg, f32x4Sqrt, f32x4Add, f32x4Sub,
  f32x4Mul, f32x4Div, f32x4Min, f32x4Max, f32x4Pmin, f32x4Pmax, f64x2Abs, f64x2Neg, f64x2Sqrt,
  f64x2Add, f64x2Sub, f64x2Mul, f64x2Div, f64x2Min, f64x2Max, f64x2Pmin, f64x2Pmax,
  -- Vector conversions
  i32x4TruncSatF32x4S, i32x4TruncSatF32x4U, f32x4ConvertI32x4S, f32x4ConvertI32x4U,
  i32x4TruncSatF64x2SZero, i32x4TruncSatF64x2UZero, f64x2ConvertLowI32x4S, f64x2ConvertLowI32x4U
]

/-- The operators by name, put in one after the other in the order of the table. The map is not to be
built where a proof only mentions it. -/
@[irreducible] def byName : NameMap Operator := all.foldl (fun m o => m.insertIfNew o.name o) .empty

/-- The operator that a name leads to. -/
def ofName? (s : String) : Option Operator := byName.get? s

/-- A name made of letters, digits and underscores that no other operator has. -/
def ident : Operator → String
  | selectTyped => "select_typed"
  | o => o.name.map fun c => if c = '.' then '_' else c

end Operator

end WasmBuilder
