import WasmBuilder.Module.Basic

/-!
# Operations

The operations on a module as values. `Module.perform` carries one out, `Module.run` a list of
them in turn, so that statements can be made about every history of a module.
-/

namespace WasmBuilder

/-- An operation on a module. -/
inductive Operation where
  | declareType (params results : List ValType)
  | funcType (i : TypeIdx)
  | addImport (i : Import)
  | freezeImports
  | declareFunction (type : TypeIdx)
  | declareTable (type : TableType)
  | declareMemory (type : MemType)
  | declareGlobal (type : GlobalType) (init : Code)
  | addBody (body : FunctionBody)
  | defineFunction (type : TypeIdx) (body : FunctionBody)
  | addExport (e : Export)
  | lookupExport (i : ExportIdx)
  | setStart (f : FuncIdx)
  | start
  | addElement (s : ElementSegment)
  | addData (s : DataSegment)
  | check
  | dataCount
  | serialize
  /-- Writes the module to a sink that counts. -/
  | measure
  /-- Writes the module to an empty code. -/
  | writeCode
  | counts

/-- How many entries a module has. -/
structure Counts where
  types : Nat
  imports : Nat
  imported : SpaceCounts
  functions : Nat
  bodies : Nat
  exports : Nat
  frozen : Bool
deriving DecidableEq

/-- The numbers of entries of a module. -/
def Module.counts (m : Module) : Counts where
  types := m.types.length
  imports := m.imports.entries.length
  imported := m.imports.counts
  functions := m.functions.length
  bodies := m.bodies.length
  exports := m.exports.length
  frozen := m.imports.frozen

/-- What an operation gives back. -/
inductive Outcome where
  /-- Nothing but its effect. -/
  | done
  /-- The index of a new entry. -/
  | index (i : UInt32)
  | funcType (t : Option FuncType)
  | entry (e : Option Export)
  | start (f : Option FuncIdx)
  | dataCount (n : Option UInt32)
  | bytes (bs : Bytes)
  | size (n : Nat)
  | code (c : Code)
  | counts (c : Counts)
deriving DecidableEq

namespace Step

/-- A step that cannot fail, with its result as an outcome. -/
def toOutcome {α : Type} (s : Step Module α) (f : α → Outcome) :
    Step Module (Except BuildError Outcome) :=
  ⟨s.state, .ok (f s.result), s.log⟩

/-- A step that may fail, with its result as an outcome. -/
def mapOutcome {α : Type} (s : Step Module (Except BuildError α)) (f : α → Outcome) :
    Step Module (Except BuildError Outcome) :=
  ⟨s.state, s.result.map f, s.log⟩

end Step

namespace Module

/-- Carries out an operation. -/
def perform (m : Module) : Operation → Step Module (Except BuildError Outcome)
  | .declareType params results => (m.declareType params results).toOutcome (.index ·.val)
  | .funcType i => ⟨m, .ok (.funcType (m.funcType? i)), []⟩
  | .addImport i => (m.addImport i).mapOutcome .index
  | .freezeImports => m.freezeImports.toOutcome fun _ => .done
  | .declareFunction type => (m.declareFunction type).toOutcome (.index ·.val)
  | .declareTable type => (m.declareTable type).toOutcome (.index ·.val)
  | .declareMemory type => (m.declareMemory type).toOutcome (.index ·.val)
  | .declareGlobal type init => (m.declareGlobal type init).toOutcome (.index ·.val)
  | .addBody body => (m.addBody body).toOutcome (.index ·.val)
  | .defineFunction type body => (m.defineFunction type body).mapOutcome (.index ·.val)
  | .addExport e => (m.addExport e).toOutcome (.index ·.val)
  | .lookupExport i => ⟨m, .ok (.entry (m.export? i)), []⟩
  | .setStart f => (m.setStart f).toOutcome fun _ => .done
  | .start => ⟨m, .ok (.start m.start), []⟩
  | .addElement s => (m.addElement s).toOutcome (.index ·.val)
  | .addData s => (m.addData s).toOutcome (.index ·.val)
  | .check => ⟨m, m.check.map fun _ => .done, []⟩
  | .dataCount => ⟨m, .ok (.dataCount m.dataCount), []⟩
  | .serialize => m.serialize.toOutcome .bytes
  | .measure => (m.writeTo ByteCount.zero).toOutcome fun s => .size s.count
  | .writeCode => (m.writeTo Code.empty).toOutcome .code
  | .counts => ⟨m, .ok (.counts m.counts), []⟩

/-- The steps of a list of operations, each from the state that the one before it left. -/
def run (m : Module) : List Operation → List (Step Module (Except BuildError Outcome))
  | [] => []
  | op :: ops =>
    let s := m.perform op
    s :: s.state.run ops

/-- The state after a list of operations. -/
def after (m : Module) (ops : List Operation) : Module :=
  ops.foldl (fun m op => (m.perform op).state) m

end Module

end WasmBuilder
