import WasmBuilder.Leb128
import WasmBuilder.Scalar

/-!
# Writes

Everything in the binary format is put together from a few primitive writes. A `Write` says what
is written; `Write.toBytes` says which bytes that is. How a destination takes a write in is the
matter of `WasmBuilder.Sink`.
-/

namespace WasmBuilder

/-- One primitive write. -/
inductive Write where
  /-- One byte as it is. -/
  | byte (b : UInt8)
  /-- Bytes as they are, with no count. -/
  | bytes (bs : Bytes)
  /-- An unsigned variable-length number. -/
  | u32 (x : UInt32)
  /-- An unsigned variable-length number. -/
  | u64 (x : UInt64)
  /-- A signed variable-length number. -/
  | i32 (x : Int32)
  /-- A signed variable-length number. -/
  | i64 (x : Int64)
  /-- A float by its bit pattern, lowest byte first. -/
  | f32 (x : F32)
  /-- A float by its bit pattern, lowest byte first. -/
  | f64 (x : F64)
  /-- Sixteen bytes as they are. -/
  | v128 (x : V128)
  /-- An index into an index space. -/
  | index (x : UInt32)
  /--
  A byte length or a number of elements. The format allows lengths below 2 ^ 32; a larger one is
  written in full, which a reader rejects, and is never cut off.
  -/
  | len (n : Nat)
  /-- A text: the length of its UTF-8 form, then that form. -/
  | name (s : String)
  /-- A truth value as 0 or 1. -/
  | bool (b : Bool)
  /-- Alignment and offset of a memory access. -/
  | memArg (align offset : UInt32)

/-- The byte of a truth value. -/
def boolByte : Bool → UInt8
  | false => 0x00
  | true => 0x01

/-- The bytes that a write stands for. -/
def Write.toBytes : Write → Bytes
  | byte b => [b]
  | bytes bs => bs
  | u32 x => Leb128.unsigned x.toNat
  | u64 x => Leb128.unsigned x.toNat
  | i32 x => Leb128.signed x.toInt
  | i64 x => Leb128.signed x.toInt
  | f32 x => x.toBytes
  | f64 x => x.toBytes
  | v128 x => x.toList
  | index x => Leb128.unsigned x.toNat
  | len n => Leb128.unsigned n
  | name s => Leb128.unsigned (Bytes.ofText s).length ++ Bytes.ofText s
  | bool b => [boolByte b]
  | memArg align offset => Leb128.unsigned align.toNat ++ Leb128.unsigned offset.toNat

/-- The bytes of several writes, one after the other. -/
def Write.toBytesAll (ws : List Write) : Bytes := ws.flatMap Write.toBytes

@[simp] theorem Write.toBytesAll_nil : Write.toBytesAll [] = [] := rfl

@[simp] theorem Write.toBytesAll_cons (w : Write) (ws : List Write) :
    Write.toBytesAll (w :: ws) = w.toBytes ++ Write.toBytesAll ws := rfl

@[simp] theorem Write.toBytesAll_append (ws vs : List Write) :
    Write.toBytesAll (ws ++ vs) = Write.toBytesAll ws ++ Write.toBytesAll vs :=
  List.flatMap_append

end WasmBuilder
