import WasmBuilder.Leb128.Read
import WasmBuilder.Scalar

/-!
# Readers

A reader takes a value from the front of some bytes, or refuses them. The readers of this library
follow the description of the binary format and not the writers beside them.

The format gives a length or a number of elements 32 bits. A writer does not stop at a longer one,
so a reader is told by `Lengths` which ones to take: `Lengths.bits 32` is the format, and
`Lengths.any` reads whatever can be written.
-/

namespace WasmBuilder

/-- The byte lengths and numbers of elements that a reader takes. -/
inductive Lengths where
  /-- Those of any size. -/
  | any
  /-- Those of so many bits. -/
  | bits (n : Nat)

/-- Whether a length is among those that a reader takes. -/
def Lengths.Allow : Lengths → Nat → Prop
  | any, _ => True
  | bits b, n => n < 1 <<< b

/-- Takes a value from the front of some bytes and leaves the rest. -/
abbrev Reader (α : Type) := ReaderT Lengths (StateT Bytes Option) α

namespace Reader

variable {α : Type}

/-- Reads all of some bytes. -/
def readAll (r : Reader α) (lengths : Lengths) (bs : Bytes) : Option α :=
  match r lengths bs with
  | some (x, []) => some x
  | _ => none

/-- A value that is there without any bytes. -/
def ofOption (x : Option α) : Reader α := fun _ bs => x.map fun x => (x, bs)

/-- One byte. -/
def byte : Reader UInt8 := fun _ bs =>
  match bs with
  | [] => none
  | b :: rest => some (b, rest)

/-- The next `n` bytes. -/
def take (n : Nat) : Reader Bytes := fun _ bs =>
  if n ≤ bs.length then some (bs.take n, bs.drop n) else none

/-- All bytes that are left. -/
def remaining : Reader Bytes := fun _ bs => some (bs, [])

/-- Refuses anything but the given bytes. -/
def expect (expected : Bytes) : Reader Unit := do
  let found ← take expected.length
  ofOption (if found = expected then some () else none)

/-- A value that takes up exactly the next `n` bytes. -/
def within (n : Nat) (r : Reader α) : Reader α := do
  let inner ← take n
  ofOption (r.readAll (← read) inner)

/-- The value of a byte that has to be one of some codes. -/
def code (decode : UInt8 → Option α) : Reader α := do
  ofOption (decode (← byte))

/-! ## Numbers -/

/-- A byte length or a number of elements. -/
def length : Reader Nat := fun lengths =>
  match lengths with
  | .any => Leb128.readUnsigned
  | .bits b => Leb128.readUnsignedBelow b

/-- An unsigned number of 32 bits. -/
def u32 : Reader UInt32 := fun _ bs =>
  (Leb128.readUnsignedBelow 32 bs).map fun (n, rest) => (UInt32.ofNat n, rest)

/-- A signed number of 32 bits. -/
def s32 : Reader Int32 := fun _ bs =>
  (Leb128.readSignedWithin 32 bs).map fun (x, rest) => (Int32.ofInt x, rest)

/-- A signed number of 33 bits. -/
def s33 : Reader Int := fun _ bs => Leb128.readSignedWithin 33 bs

/-- A signed number of 64 bits. -/
def s64 : Reader Int64 := fun _ bs =>
  (Leb128.readSignedWithin 64 bs).map fun (x, rest) => (Int64.ofInt x, rest)

/-- The number of which some bytes are the digits, lowest first. -/
def ofLittleEndian (bs : Bytes) : Nat := bs.foldr (fun b n => b.toNat + 256 * n) 0

/-- A float of 32 bits. -/
def f32 : Reader F32 := return ⟨UInt32.ofNat (ofLittleEndian (← take 4))⟩

/-- A float of 64 bits. -/
def f64 : Reader F64 := return ⟨UInt64.ofNat (ofLittleEndian (← take 8))⟩

/-- A truth value. -/
def bool : Reader Bool := code fun
  | 0x00 => some false
  | 0x01 => some true
  | _ => none

/-! ## Repetition -/

/-- The same `n` times. -/
def times (n : Nat) (r : Reader α) : Reader (List α) :=
  match n with
  | 0 => pure []
  | n + 1 => return (← r) :: (← times n r)

/-- The same `n` times, with the number kept in the type. -/
def vector (n : Nat) (r : Reader α) : Reader (Vector α n) :=
  match n with
  | 0 => pure #v[]
  | n + 1 => return (← vector n r).push (← r)

/-- A number of elements, then the elements. -/
def list (r : Reader α) : Reader (List α) := do
  let n ← length
  times n r

/-- A text in UTF-8, with its length in front. -/
def name : Reader String := do
  let n ← length
  ofOption (String.fromUTF8? ⟨(← take n).toArray⟩)

end Reader

end WasmBuilder
