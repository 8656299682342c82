import WasmBuilder.Code

/-!
# Function bodies

A body declares its locals and holds its instructions. Locals are declared in runs: each run gives
a number and a type. `LocalGroup.ofTypes` makes the shortest list of runs, one for each stretch of
equal neighbours.
-/

namespace WasmBuilder

namespace LocalGroup

/-- Puts one more local in front of a list of runs, in the first run if the types agree. -/
def cons (t : ValType) : List LocalGroup → List LocalGroup
  | [] => [⟨1, t⟩]
  | g :: gs => if g.type = t then ⟨g.count + 1, t⟩ :: gs else ⟨1, t⟩ :: g :: gs

/-- The runs of equal neighbours in a list of types. -/
def ofTypes : List ValType → List LocalGroup
  | [] => []
  | t :: ts => cons t (ofTypes ts)

/-- The locals that a list of runs declares, one by one. -/
def expand (gs : List LocalGroup) : List ValType :=
  gs.flatMap fun g => List.replicate g.count.toNat g.type

/-- The number of locals that a list of runs declares. -/
def total (gs : List LocalGroup) : UInt32 := gs.foldr (fun g n => g.count + n) 0

end LocalGroup

/-- A function's locals and instructions. -/
structure FunctionBody where
  locals : List LocalGroup
  code : Code
deriving DecidableEq

namespace FunctionBody

/-- The body with the given locals, one entry a local, and the given instructions. -/
def ofLocals (types : List ValType) (code : Code) : FunctionBody :=
  ⟨LocalGroup.ofTypes types, code⟩

/-- The number of locals declared; parameters do not count. -/
def numLocals (b : FunctionBody) : UInt32 := LocalGroup.total b.locals

end FunctionBody

instance : Binary FunctionBody where writes b := Binary.writes b.locals ++ Binary.writes b.code

/-! ## Runs -/

example : LocalGroup.ofTypes [.i32, .i32, .i64, .i32] = [⟨2, .i32⟩, ⟨1, .i64⟩, ⟨1, .i32⟩] := by
  decide

end WasmBuilder
