import WasmBuilder.Code
import WasmBuilder.Reader.Types

/-!
# Reading instructions

The table of operators, read backwards: an opcode gives the operator, and the operator says which
immediates follow.
-/

namespace WasmBuilder

/-- The operator with an opcode. -/
def Operator.ofOpcode? (c : Opcode) : Option Operator := Operator.all.find? fun o => o.opcode == c

namespace Reader

/-- An operator: its byte if a single byte is an opcode, and otherwise a lead byte and a number. -/
def operator : Reader Operator := do
  let b ← byte
  match Operator.ofOpcode? (.byte b) with
  | some o => return o
  | none =>
    let sub ← u32
    ofOption (Operator.ofOpcode? (.extended b sub))

/-- A value of a kind. -/
def immediate : (k : ImmediateKind) → Reader k.Value
  | .blockType => blockType
  | .label => index
  | .labels => list index
  | .func => index
  | .type => index
  | .table => index
  | .mem => index
  | .global => index
  | .localVar => index
  | .elem => index
  | .data => index
  | .lane => index
  | .lanes => vector 16 index
  | .memArg => memArg
  | .i32 => s32
  | .i64 => s64
  | .f32 => f32
  | .f64 => f64
  | .v128 => vector 16 byte
  | .refType => refType
  | .valTypes => list valType

/-- Values of kinds. -/
def operands : (ks : List ImmediateKind) → Reader (Operands ks)
  | [] => pure ()
  | k :: ks => return (← immediate k, ← operands ks)

/-- An instruction. -/
def instruction : Reader Instruction := do
  let o ← operator
  return ⟨o, ← operands o.kinds⟩

/-! ## Streams

An instruction takes at least one byte, so there are no more instructions than bytes. -/

/-- At most `fuel` instructions that take up all bytes. -/
def instructionsWithin (lengths : Lengths) : (fuel : Nat) → Bytes → Option (List Instruction)
  | _, [] => some []
  | 0, _ :: _ => none
  | fuel + 1, b :: bs => do
    let (i, rest) ← instruction lengths (b :: bs)
    return i :: (← instructionsWithin lengths fuel rest)

/-- The instructions that take up all bytes. -/
def instructions (lengths : Lengths) (bs : Bytes) : Option (List Instruction) :=
  instructionsWithin lengths bs.length bs

/-- What is left after the `end` that closes `depth` blocks and the expression around them. -/
def afterEnd (lengths : Lengths) : (fuel depth : Nat) → Bytes → Option Bytes
  | 0, _, _ => none
  | fuel + 1, depth, bs => do
    let (i, rest) ← instruction lengths bs
    match i.operator, depth with
    | .endBlock, 0 => return rest
    | .endBlock, depth + 1 => afterEnd lengths fuel depth rest
    | .block, depth => afterEnd lengths fuel (depth + 1) rest
    | .loop, depth => afterEnd lengths fuel (depth + 1) rest
    | .ifBranch, depth => afterEnd lengths fuel (depth + 1) rest
    | _, depth => afterEnd lengths fuel depth rest

/-- The bytes of an expression, up to and including the `end` that closes it. -/
def expression : Reader Bytes := fun lengths bs =>
  (afterEnd lengths bs.length 0 bs).map fun rest => (bs.take (bs.length - rest.length), rest)

end Reader

end WasmBuilder
