import WasmBuilder.Entry
import WasmBuilder.Import
import WasmBuilder.Section

/-!
# Modules

A module under construction is a list of entries for each of its sections. Operations add entries
and give back the index that the new entry got. Imports have to be added before the first local
function, table, memory or global: the first such definition freezes them.

A module can be serialized at any time. Sections come in a fixed order, whatever the order in
which they were filled.
-/

namespace WasmBuilder

/-- A module under construction. -/
structure Module where
  types : List FuncType
  imports : ImportTable
  /-- The types of the local functions. -/
  functions : List TypeIdx
  tables : List TableType
  memories : List MemType
  globals : List Global
  exports : List Export
  start : Option FuncIdx
  elements : List ElementSegment
  bodies : List FunctionBody
  data : List DataSegment
  /-- Whether a body has an instruction that uses data segments. -/
  usesData : Bool
deriving DecidableEq

namespace Module

/-- The module without entries. -/
def empty : Module where
  types := []
  imports := .empty
  functions := []
  tables := []
  memories := []
  globals := []
  exports := []
  start := none
  elements := []
  bodies := []
  data := []
  usesData := false

/-! ## Types and imports -/

/-- Declares a function type. -/
def declareType (m : Module) (params results : List ValType) : Step Module TypeIdx :=
  let s := Section.addEntry m.types ⟨params, results⟩
  ⟨{ m with types := s.state }, ⟨s.result⟩, [.typeDeclared ⟨s.result⟩ params results]⟩

/-- The function type with an index, if there is one. -/
def funcType? (m : Module) (i : TypeIdx) : Option FuncType :=
  Section.entry? m.types i.val

/-- Adds an import and gives its index in its space. It fails once the imports are frozen. -/
def addImport (m : Module) (i : Import) : Step Module (Except BuildError UInt32) :=
  let s := m.imports.add i
  ⟨{ m with imports := s.state }, s.result, s.log⟩

/-- Closes the list of imports. -/
def freezeImports (m : Module) : Step Module Unit :=
  let s := m.imports.freeze
  ⟨{ m with imports := s.state }, (), s.log⟩

/-! ## Local definitions -/

/-- Declares a function; its body is added separately. -/
def declareFunction (m : Module) (type : TypeIdx) : Step Module FuncIdx :=
  m.freezeImports.andThen fun m _ =>
    let s := Section.addEntry m.functions type
    let index : FuncIdx := ⟨m.imports.count .func + s.result⟩
    ⟨{ m with functions := s.state }, index, [.functionDeclared index type]⟩

/-- Declares a table. -/
def declareTable (m : Module) (type : TableType) : Step Module TableIdx :=
  m.freezeImports.andThen fun m _ =>
    let s := Section.addEntry m.tables type
    let index : TableIdx := ⟨m.imports.count .table + s.result⟩
    ⟨{ m with tables := s.state }, index, [.tableDeclared index type]⟩

/-- Declares a memory. -/
def declareMemory (m : Module) (type : MemType) : Step Module MemIdx :=
  m.freezeImports.andThen fun m _ =>
    let s := Section.addEntry m.memories type
    let index : MemIdx := ⟨m.imports.count .mem + s.result⟩
    ⟨{ m with memories := s.state }, index, [.memoryDeclared index type]⟩

/-- Declares a global with the expression, its end included, that gives its first value. -/
def declareGlobal (m : Module) (type : GlobalType) (init : Code) : Step Module GlobalIdx :=
  m.freezeImports.andThen fun m _ =>
    let s := Section.addEntry m.globals ⟨type, init⟩
    let index : GlobalIdx := ⟨m.imports.count .global + s.result⟩
    ⟨{ m with globals := s.state }, index, [.globalDeclared index type]⟩

/-! ## Bodies -/

/-- Fails unless there are as many functions as bodies. -/
def check (m : Module) : Except BuildError Unit :=
  if m.functions.length = m.bodies.length then .ok ()
  else .error (.misalignedBodies m.functions.length m.bodies.length)

/-- Adds a body, without a function for it. -/
def addBody (m : Module) (body : FunctionBody) : Step Module BodyIdx :=
  let s := Section.addEntry m.bodies body
  ⟨{ m with bodies := s.state, usesData := m.usesData || body.code.usesData }, ⟨s.result⟩,
    [.bodyAdded ⟨s.result⟩ body.code.bytes.length]⟩

/-- Declares a function together with its body. It fails, and changes nothing, if functions and
bodies were already out of step. -/
def defineFunction (m : Module) (type : TypeIdx) (body : FunctionBody) :
    Step Module (Except BuildError FuncIdx) :=
  match m.check with
  | .error e => ⟨m, .error e, []⟩
  | .ok () =>
    (m.declareFunction type).andThen fun m index =>
      (m.addBody body).andThen fun m _ => ⟨m, .ok index, []⟩

/-! ## Exports, start function, segments -/

/-- Adds an export. Names may repeat, and the index need not exist. -/
def addExport (m : Module) (e : Export) : Step Module ExportIdx :=
  let s := Section.addEntry m.exports e
  ⟨{ m with exports := s.state }, ⟨s.result⟩, []⟩

/-- The export with an index, if there is one. -/
def export? (m : Module) (i : ExportIdx) : Option Export :=
  Section.entry? m.exports i.val

/-- Sets the start function. Replacing one is worth a log line. -/
def setStart (m : Module) (f : FuncIdx) : Step Module Unit :=
  let s := Section.setStart m.start f
  let log := match s.result with
    | some old => [.startReplaced old f]
    | none => []
  ⟨{ m with start := s.state }, (), log⟩

/-- Adds an element segment. -/
def addElement (m : Module) (s : ElementSegment) : Step Module ElemIdx :=
  let added := Section.addEntry m.elements s
  ⟨{ m with elements := added.state }, ⟨added.result⟩, []⟩

/-- Adds a data segment. -/
def addData (m : Module) (s : DataSegment) : Step Module DataIdx :=
  let added := Section.addEntry m.data s
  ⟨{ m with data := added.state }, ⟨added.result⟩, []⟩

/-- The number of data segments, if it has to be announced: passive segments and bodies that use
segments cannot be validated without it. -/
def dataCount (m : Module) : Option UInt32 :=
  if m.usesData || DataSegment.anyPassive m.data then
    (Section.setDataCount none (nextIndex m.data)).state
  else none

/-! ## The binary form -/

/-- What every module starts with: the magic number and the version of the format. -/
def header : List Write := [.bytes [0x00, 0x61, 0x73, 0x6d], .bytes [0x01, 0x00, 0x00, 0x00]]

/-- The sections in the order in which they are written. The number of data segments stands before
the bodies, so that these can be checked in one pass. -/
def sections (m : Module) : List Section := [
  .ofEntries .type m.types,
  .ofEntries .imports m.imports.entries,
  .ofEntries .function m.functions,
  .ofEntries .table m.tables,
  .ofEntries .memory m.memories,
  .ofEntries .global m.globals,
  .ofEntries .exports m.exports,
  .ofStart m.start,
  .ofEntries .element m.elements,
  .ofDataCount m.dataCount,
  .ofBodies m.bodies,
  .ofEntries .data m.data]

instance : Binary Module where writes m := header ++ m.sections.flatMap Section.framed

/-- What the log says about the sections when the module is written. -/
def sectionLog (m : Module) : List Event := m.sections.map Section.event

/-- Writes the module to a sink. -/
def writeTo {σ : Type} [Sink σ] (m : Module) (s : σ) : Step Module σ :=
  ⟨m, Sink.writeAll (Binary.writes m) s, m.sectionLog⟩

/-- The bytes of the module. A module that fails its check is serialized all the same, with a
warning. -/
def serialize (m : Module) : Step Module Bytes :=
  let bytes := Binary.toBytes m
  let warning := match m.check with
    | .error e => [.inconsistent e]
    | .ok () => []
  ⟨m, bytes, warning ++ m.sectionLog ++ [.serialized bytes.length]⟩

/-- Serializes the module and hands the bytes to `write`, which may fail. -/
def save {μ : Type → Type} [Monad μ] (m : Module) (write : Bytes → μ (Except FileFailure Unit)) :
    μ (Step Module (Except BuildError Unit)) := do
  let s := m.serialize
  let written ← write s.result
  return ⟨m, written.mapError .file, s.log⟩

end Module

end WasmBuilder
