import WasmBuilder.Event

/-!
# Code

A code is a stream of instructions: a function's instructions or the expression that initialises a
global or places a segment. Nothing checks that the stream is well typed or that it ends.

Instructions get into a code in three ways.

* `Code.push` takes an `Instruction`, whose operands fit by their type.
* `Code.append` takes any immediates and compares their kinds with the table first.
* As a sink, a code takes raw writes. These bypass the table, and a code does not notice when the
  bytes of an instruction are written this way.

What may fail gives back the code that it leaves behind in either case.
-/

namespace WasmBuilder

/-- A stream of instructions. -/
structure Code where
  /-- The bytes of the instructions. -/
  bytes : Bytes
  /-- Whether an instruction that uses data segments was put in as an instruction. -/
  usesData : Bool
deriving DecidableEq

/-- An instruction whose operands fit its operator. -/
structure Instruction where
  operator : Operator
  operands : Operands operator.kinds

namespace Instruction

/-- The instruction's operands as immediates. -/
def immediates (i : Instruction) : List Immediate :=
  Operands.toImmediates i.operator.kinds i.operands

/-- The instruction made of an operator and immediates, if they fit. -/
def ofImmediates? (o : Operator) (imms : List Immediate) : Option Instruction :=
  (Operands.ofImmediates? o.kinds imms).map fun vs => ⟨o, vs⟩

end Instruction

/-- A code is written as its bytes, with no count. -/
instance : Binary Code where writes c := [.bytes c.bytes]

/-- Raw writes add bytes and leave the mark for data segments alone. -/
instance : Sink Code where
  byte b c := { c with bytes := c.bytes ++ [b] }
  bytes bs c := { c with bytes := c.bytes ++ bs }

namespace Code

/-- The code without instructions. -/
def empty : Code := ⟨[], false⟩

/-- Marks the code if the operator uses data segments. -/
def mark (c : Code) (o : Operator) : Code := if o.usesData then { c with usesData := true } else c

/-- Marks the code where that is due, then writes an operator and immediates to it as they are. -/
def emit (c : Code) (o : Operator) (imms : List Immediate) : Code :=
  imms.foldl (fun c i => Sink.writeAll (Binary.writes i) c)
    (Sink.writeAll (Binary.writes o.opcode) (c.mark o))

/-- Adds an instruction. -/
def push (c : Code) (i : Instruction) : Code := c.emit i.operator i.immediates

/-! ## Checked instructions -/

/-- A place where two lists of kinds differ; a list that has ended counts as `none` there. -/
structure Mismatch where
  position : Nat
  expected : Option ImmediateKind
  found : Option ImmediateKind
deriving DecidableEq

/-- The first place where two lists of kinds differ, counting places from `position`. -/
def firstMismatch (position : Nat) : (expected found : List ImmediateKind) → Option Mismatch
  | [], [] => none
  | e :: _, [] => some ⟨position, some e, none⟩
  | [], f :: _ => some ⟨position, none, some f⟩
  | e :: es, f :: fs =>
    if e = f then firstMismatch (position + 1) es fs else some ⟨position, some e, some f⟩

/-- Adds an instruction if its immediates have the kinds that the table asks for. -/
def append (c : Code) (o : Operator) (imms : List Immediate) : Step Code (Except BuildError Unit) :=
  match firstMismatch 0 o.kinds (imms.map (·.kind)) with
  | some m => ⟨c, .error (.immediateMismatch o m.position m.expected m.found), []⟩
  | none => ⟨c.emit o imms, .ok (), []⟩

/-- Adds an instruction given by its name in the text format. -/
def appendNamed (c : Code) (name : String) (imms : List Immediate) :
    Step Code (Except BuildError Unit) :=
  (Operator.ofName? name).elim ⟨c, .error (.unknownInstruction name), []⟩ (c.append · imms)

/-! ## Operations -/

/-- An operation on a code. -/
inductive Operation where
  /-- Adds an instruction by name, to be checked. -/
  | named (name : String) (imms : List Immediate)
  /-- Adds an instruction by operator, to be checked. -/
  | checked (o : Operator) (imms : List Immediate)
  /-- Adds an instruction that fits by its type. -/
  | typed (i : Instruction)
  /-- A raw write. -/
  | raw (w : Write)

/-- Carries out an operation. -/
def perform (c : Code) : Operation → Step Code (Except BuildError Unit)
  | .named name imms => c.appendNamed name imms
  | .checked o imms => c.append o imms
  | .typed i => ⟨c.push i, .ok (), []⟩
  | .raw w => ⟨Sink.write c w, .ok (), []⟩

/-- Carries out operations in turn, up to the first that fails. -/
def performAll (c : Code) : List Operation → Step Code (Except BuildError Unit)
  | [] => ⟨c, .ok (), []⟩
  | op :: ops =>
    (c.perform op).andThen fun c result =>
      match result with
      | .error e => ⟨c, .error e, []⟩
      | .ok () => c.performAll ops

/-- The code after a list of operations, each on the code that the one before it left, whether that
one failed or not. -/
def after (c : Code) (ops : List Operation) : Code :=
  ops.foldl (fun c op => (c.perform op).state) c

end Code

end WasmBuilder
