import WasmBuilder.Binary

/-!
# Sinks agree

A sink says how it takes bytes, and it may take unsigned numbers in a way of its own. Two laws keep
that freedom from showing: several bytes are taken as if one by one, and an unsigned number is taken
as if it were its bytes.

1. `LawfulSink` states the laws. A byte string has them, and so has a `ByteCount`, although it adds
   up sizes where the other one stores bytes.
2. To a lawful sink a write is nothing but its bytes (`LawfulSink.write_eq_bytes`), and so are
   several writes (`LawfulSink.writeAll_eq_bytes`).

Everything that carries its own length in front relies on this: the length is counted, and what
follows is written.
-/

namespace WasmBuilder

/-- A sink to which numbers and strings of bytes are the single bytes that they consist of. -/
class LawfulSink (σ : Type) [Sink σ] : Prop where
  /-- Several bytes are taken as if one by one. -/
  bytes_eq_foldl : ∀ (bs : Bytes) (s : σ), Sink.bytes bs s = bs.foldl (fun s b => Sink.byte b s) s
  /-- An unsigned number is taken as if it were its bytes. -/
  unsigned_eq_foldl : ∀ (n : Nat) (s : σ),
    Sink.unsigned n s = (Leb128.unsigned n).foldl (fun s b => Sink.byte b s) s

namespace LawfulSink

variable {σ : Type} [Sink σ] [LawfulSink σ]

/-- Where a string of bytes is cut makes no difference. -/
theorem bytes_append (as bs : Bytes) (s : σ) :
    Sink.bytes (as ++ bs) s = Sink.bytes bs (Sink.bytes as s) := by
  simp only [bytes_eq_foldl, List.foldl_append]

theorem byte_eq_bytes (b : UInt8) (s : σ) : Sink.byte b s = Sink.bytes [b] s := by
  rw [bytes_eq_foldl, List.foldl_cons, List.foldl_nil]

theorem unsigned_eq_bytes (n : Nat) (s : σ) :
    Sink.unsigned n s = Sink.bytes (Leb128.unsigned n) s := by
  rw [unsigned_eq_foldl, bytes_eq_foldl]

theorem signed_eq_bytes (x : Int) (s : σ) : Sink.signed x s = Sink.bytes (Leb128.signed x) s := by
  rw [Sink.signed, bytes_eq_foldl]

/-- **A write is taken as the bytes that it stands for.** -/
theorem write_eq_bytes (s : σ) (w : Write) : Sink.write s w = Sink.bytes w.toBytes s := by
  cases w with
  | byte b => exact byte_eq_bytes b s
  | bytes bs => rfl
  | u32 x => exact unsigned_eq_bytes _ s
  | u64 x => exact unsigned_eq_bytes _ s
  | i32 x => exact signed_eq_bytes _ s
  | i64 x => exact signed_eq_bytes _ s
  | f32 x => rfl
  | f64 x => rfl
  | v128 x => rfl
  | index x => exact unsigned_eq_bytes _ s
  | len n => exact unsigned_eq_bytes _ s
  | name t => rw [Sink.write, Write.toBytes, bytes_append, unsigned_eq_bytes]
  | bool b => exact byte_eq_bytes _ s
  | memArg align offset =>
    rw [Sink.write, Write.toBytes, bytes_append, unsigned_eq_bytes, unsigned_eq_bytes]

/-- **Writes are taken as the bytes that they stand for, one after the other.** -/
theorem writeAll_eq_bytes (ws : List Write) (s : σ) :
    Sink.writeAll ws s = Sink.bytes (Write.toBytesAll ws) s := by
  induction ws generalizing s with
  | nil => rw [Sink.writeAll_nil, Write.toBytesAll_nil, bytes_eq_foldl, List.foldl_nil]
  | cons w ws ih => rw [Sink.writeAll_cons, ih, write_eq_bytes, Write.toBytesAll_cons, bytes_append]

end LawfulSink

/-! ## Byte strings and counts -/

instance : LawfulSink Bytes where
  bytes_eq_foldl bs s := by
    show s ++ bs = bs.foldl (fun s b => s ++ [b]) s
    induction bs generalizing s with
    | nil => exact List.append_nil s
    | cons b bs ih => rw [List.foldl_cons, ← ih, List.append_assoc, List.singleton_append]
  unsigned_eq_foldl _ _ := rfl

/-- Bytes taken one by one are counted one by one. -/
theorem ByteCount.foldl_byte (bs : Bytes) (c : ByteCount) :
    bs.foldl (fun c b => Sink.byte b c) c = ⟨c.count + bs.length⟩ := by
  induction bs generalizing c with
  | nil => rfl
  | cons b bs ih =>
    rw [List.foldl_cons, ih, List.length_cons]
    show ByteCount.mk (c.count + 1 + bs.length) = _
    rw [Nat.add_right_comm, Nat.add_assoc]

instance : LawfulSink ByteCount where
  bytes_eq_foldl bs c := (ByteCount.foldl_byte bs c).symm
  unsigned_eq_foldl n c := by
    -- the size that is added without writing is the length of what would be written
    rw [ByteCount.foldl_byte, Leb128.length_unsigned]
    rfl

/-- A count grows by the number of bytes that its writes stand for. -/
theorem ByteCount.writeAll_eq (ws : List Write) (c : ByteCount) :
    Sink.writeAll ws c = ⟨c.count + (Write.toBytesAll ws).length⟩ :=
  LawfulSink.writeAll_eq_bytes ws c

/-- **The size counted for a value is the number of its bytes.** -/
theorem Binary.size_eq_length {α : Type} [Binary α] (x : α) :
    Binary.size x = (Binary.toBytes x).length := by
  unfold Binary.size Binary.toBytes
  rw [ByteCount.writeAll_eq]
  exact Nat.zero_add _

/-- A value with its length in front says how many bytes of its own follow. -/
theorem Framed.toBytes_mk {α : Type} [Binary α] (x : α) :
    Binary.toBytes (Framed.mk x)
      = Leb128.unsigned (Binary.toBytes x).length ++ Binary.toBytes x := by
  rw [← Binary.size_eq_length]
  rfl

end WasmBuilder
