import WasmBuilder.Write

/-!
# Sinks

A sink is a destination for writes. It says how it takes one byte and how it takes several bytes;
all other writes come down to these two. A sink may also take unsigned numbers in a way of its
own, as `ByteCount` does: it adds the size of the number without producing its bytes.
-/

namespace WasmBuilder

/-- A destination for writes, as a state that each write moves on. -/
class Sink (σ : Type) where
  /-- Takes one byte. -/
  byte : UInt8 → σ → σ
  /-- Takes several bytes. -/
  bytes : Bytes → σ → σ
  /-- Takes an unsigned variable-length number, byte by byte unless the sink knows better. -/
  unsigned : Nat → σ → σ := fun n s => (Leb128.unsigned n).foldl (fun s b => byte b s) s

namespace Sink

variable {σ : Type} [Sink σ]

/-- Takes a signed variable-length number, byte by byte. -/
def signed (x : Int) (s : σ) : σ := (Leb128.signed x).foldl (fun s b => byte b s) s

/-- Takes one write. -/
def write (s : σ) : Write → σ
  | .byte b => byte b s
  | .bytes bs => bytes bs s
  | .u32 x => unsigned x.toNat s
  | .u64 x => unsigned x.toNat s
  | .i32 x => signed x.toInt s
  | .i64 x => signed x.toInt s
  | .f32 x => bytes x.toBytes s
  | .f64 x => bytes x.toBytes s
  | .v128 x => bytes x.toList s
  | .index x => unsigned x.toNat s
  | .len n => unsigned n s
  | .name t => bytes (Bytes.ofText t) (unsigned (Bytes.ofText t).length s)
  | .bool b => byte (boolByte b) s
  | .memArg align offset => unsigned offset.toNat (unsigned align.toNat s)

/-- Takes several writes, first to last. -/
def writeAll (ws : List Write) (s : σ) : σ := ws.foldl write s

@[simp] theorem writeAll_nil (s : σ) : writeAll [] s = s := rfl

@[simp] theorem writeAll_cons (w : Write) (ws : List Write) (s : σ) :
    writeAll (w :: ws) s = writeAll ws (write s w) := rfl

theorem writeAll_append (ws vs : List Write) (s : σ) :
    writeAll (ws ++ vs) s = writeAll vs (writeAll ws s) := List.foldl_append

end Sink

/-! ## Two sinks -/

/-- A byte string takes bytes at its end. -/
instance : Sink Bytes where
  byte b s := s ++ [b]
  bytes bs s := s ++ bs

/-- A sink that only counts the bytes it is given. -/
structure ByteCount where
  count : Nat
deriving DecidableEq

/-- The count before any byte. -/
def ByteCount.zero : ByteCount := ⟨0⟩

instance : Sink ByteCount where
  byte _ s := ⟨s.count + 1⟩
  bytes bs s := ⟨s.count + bs.length⟩
  unsigned n s := ⟨s.count + Leb128.unsignedSize n⟩

end WasmBuilder
