import WasmBuilder.Types

/-!
# Immediates

An immediate is an operand written right after the opcode. Its kind decides the type of its value.
An operator asks for a list of kinds; `Operands` is the type of value lists that fit such a list,
so operands of the wrong kind or number cannot be given.
-/

namespace WasmBuilder

/-- The kinds of immediates. -/
inductive ImmediateKind where
  | blockType
  | label
  | labels
  | func
  | type
  | table
  | mem
  | global
  | localVar
  | elem
  | data
  | lane
  | lanes
  | memArg
  | i32
  | i64
  | f32
  | f64
  | v128
  | refType
  | valTypes
deriving DecidableEq

namespace ImmediateKind

/-- The kind's name in messages and listings. -/
def name : ImmediateKind → String
  | blockType => "blocktype"
  | label => "labelidx"
  | labels => "vec(labelidx)"
  | func => "funcidx"
  | type => "typeidx"
  | table => "tableidx"
  | mem => "memidx"
  | global => "globalidx"
  | localVar => "localidx"
  | elem => "elemidx"
  | data => "dataidx"
  | lane => "laneidx"
  | lanes => "laneidx^16"
  | memArg => "memarg"
  | i32 => "i32"
  | i64 => "i64"
  | f32 => "f32"
  | f64 => "f64"
  | v128 => "v128"
  | refType => "reftype"
  | valTypes => "vec(valtype)"

/-- The kind's key in machine-readable listings. -/
def key : ImmediateKind → String
  | blockType => "block_type"
  | label => "label"
  | labels => "labels"
  | func => "func"
  | type => "type"
  | table => "table"
  | mem => "mem"
  | global => "global"
  | localVar => "local"
  | elem => "elem"
  | data => "data"
  | lane => "lane"
  | lanes => "lanes"
  | memArg => "mem_arg"
  | i32 => "i32"
  | i64 => "i64"
  | f32 => "f32"
  | f64 => "f64"
  | v128 => "v128"
  | refType => "ref_type"
  | valTypes => "val_types"

/-- The type of the values of a kind. -/
abbrev Value : ImmediateKind → Type
  | blockType => BlockType
  | label => LabelIdx
  | labels => List LabelIdx
  | func => FuncIdx
  | type => TypeIdx
  | table => TableIdx
  | mem => MemIdx
  | global => GlobalIdx
  | localVar => LocalIdx
  | elem => ElemIdx
  | data => DataIdx
  | lane => LaneIdx
  | lanes => Vector LaneIdx 16
  | memArg => MemArg
  | i32 => Int32
  | i64 => Int64
  | f32 => F32
  | f64 => F64
  | v128 => V128
  | refType => RefType
  | valTypes => List ValType

/-- The writes of a value. Sixteen lanes are written without a count: their number is fixed. -/
def writes : (k : ImmediateKind) → k.Value → List Write
  | blockType, t => Binary.writes t
  | label, i => Binary.writes i
  | labels, is => Binary.writes is
  | func, i => Binary.writes i
  | type, i => Binary.writes i
  | table, i => Binary.writes i
  | mem, i => Binary.writes i
  | global, i => Binary.writes i
  | localVar, i => Binary.writes i
  | elem, i => Binary.writes i
  | data, i => Binary.writes i
  | lane, i => Binary.writes i
  | lanes, is => is.toList.flatMap Binary.writes
  | memArg, a => Binary.writes a
  | i32, x => [.i32 x]
  | i64, x => [.i64 x]
  | f32, x => [.f32 x]
  | f64, x => [.f64 x]
  | v128, x => [.v128 x]
  | refType, t => Binary.writes t
  | valTypes, ts => Binary.writes ts

/-- Equality of two values of one kind. Floats are compared as numbers. -/
def sameValue : (k : ImmediateKind) → k.Value → k.Value → Bool
  | blockType, a, b => a == b
  | label, a, b => a == b
  | labels, a, b => a == b
  | func, a, b => a == b
  | type, a, b => a == b
  | table, a, b => a == b
  | mem, a, b => a == b
  | global, a, b => a == b
  | localVar, a, b => a == b
  | elem, a, b => a == b
  | data, a, b => a == b
  | lane, a, b => a == b
  | lanes, a, b => a == b
  | memArg, a, b => a == b
  | i32, a, b => a == b
  | i64, a, b => a == b
  | f32, a, b => a.sameValue b
  | f64, a, b => a.sameValue b
  | v128, a, b => a == b
  | refType, a, b => a == b
  | valTypes, a, b => a == b

end ImmediateKind

/-- An operand of an instruction: a kind and a value of that kind. -/
structure Immediate where
  kind : ImmediateKind
  value : kind.Value

instance : Binary Immediate where writes i := i.kind.writes i.value

/-- Same kind and same value, floats being compared as numbers. -/
def Immediate.sameValue : Immediate → Immediate → Bool
  | ⟨k, a⟩, ⟨l, b⟩ => if h : k = l then l.sameValue (h ▸ a) b else false

/-! ## Operands -/

/-- Lists of values, one for each of the given kinds. -/
def Operands : List ImmediateKind → Type
  | [] => Unit
  | k :: ks => k.Value × Operands ks

namespace Operands

/-- The operands as immediates. -/
def toImmediates : (ks : List ImmediateKind) → Operands ks → List Immediate
  | [], _ => []
  | k :: ks, (v, vs) => ⟨k, v⟩ :: toImmediates ks vs

/-- The immediates as operands, if they have the given kinds. -/
def ofImmediates? : (ks : List ImmediateKind) → List Immediate → Option (Operands ks)
  | [], [] => some ()
  | k :: ks, ⟨l, v⟩ :: rest =>
    if h : l = k then (ofImmediates? ks rest).map fun vs => (h ▸ v, vs) else none
  | _, _ => none

/-- Operands have the kinds that were asked for. -/
theorem map_kind_toImmediates : ∀ (ks : List ImmediateKind) (vs : Operands ks),
    (toImmediates ks vs).map (·.kind) = ks
  | [], _ => rfl
  | k :: ks, (_, vs) => congrArg (k :: ·) (map_kind_toImmediates ks vs)

/-- Operands read back from their immediates. -/
theorem ofImmediates?_toImmediates : ∀ (ks : List ImmediateKind) (vs : Operands ks),
    ofImmediates? ks (toImmediates ks vs) = some vs
  | [], _ => rfl
  | k :: ks, (v, vs) => by
    simp only [toImmediates, ofImmediates?, dite_true, ofImmediates?_toImmediates ks vs]
    rfl

end Operands

end WasmBuilder
