import WasmBuilder.Sink

/-!
# Binary forms

A type has a binary form when each of its values is a sequence of writes. From that sequence come
both the bytes (`Binary.toBytes`) and their number (`Binary.size`); the number is counted by a
`ByteCount`, so that a length can stand in front of what it measures.
-/

namespace WasmBuilder

/-- Types with a binary form. -/
class Binary (α : Type) where
  /-- The writes that make up a value. -/
  writes : α → List Write

namespace Binary

variable {α : Type} [Binary α]

/-- The bytes of a value. -/
def toBytes (x : α) : Bytes := Write.toBytesAll (writes x)

/-- The number of bytes of a value, counted without producing them. -/
def size (x : α) : Nat := (Sink.writeAll (writes x) ByteCount.zero).count

end Binary

/-! ## Primitive values -/

instance : Binary UInt8 where writes b := [.byte b]
instance : Binary UInt32 where writes x := [.u32 x]
instance : Binary UInt64 where writes x := [.u64 x]
instance : Binary Int32 where writes x := [.i32 x]
instance : Binary Int64 where writes x := [.i64 x]
instance : Binary F32 where writes x := [.f32 x]
instance : Binary F64 where writes x := [.f64 x]
instance : Binary Bool where writes b := [.bool b]
instance : Binary String where writes s := [.name s]

/-- A list is its number of elements, then the elements. -/
instance {α : Type} [Binary α] : Binary (List α) where
  writes xs := .len xs.length :: xs.flatMap Binary.writes

/-! ## Wrappers -/

/-- A value of any type, reduced to its writes; elements of different types fit in one list. -/
structure Encoded where
  writes : List Write

/-- Forgets all of a value but its binary form. -/
def Encoded.of {α : Type} [Binary α] (x : α) : Encoded := ⟨Binary.writes x⟩

instance : Binary Encoded where writes e := e.writes

/-- A value with its byte length in front. -/
structure Framed (α : Type) where
  value : α

instance {α : Type} [Binary α] : Binary (Framed α) where
  writes f := .len (Binary.size f.value) :: Binary.writes f.value

end WasmBuilder
