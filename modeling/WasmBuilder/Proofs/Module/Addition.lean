import WasmBuilder.Module.Operation

/-!
# What an operation does

An operation that succeeds adds entries at the end of some sections and may freeze the imports; it
never takes anything away. An operation that fails does nothing. This is said once, in
`Module.perform_cases`, and what holds after every run is derived from it.
-/

namespace WasmBuilder

/-- What an operation adds to a module. -/
structure Addition where
  types : List FuncType := []
  imports : List Import := []
  functions : List TypeIdx := []
  tables : List TableType := []
  memories : List MemType := []
  globals : List Global := []
  exports : List Export := []
  /-- The start function that replaces the one before. -/
  start : Option FuncIdx := none
  elements : List ElementSegment := []
  bodies : List FunctionBody := []
  data : List DataSegment := []
  /-- Whether the imports are frozen. -/
  freezes : Bool := false

/-- What an operation adds if it succeeds. -/
def Operation.addition : Operation → Addition
  | .declareType params results => { types := [⟨params, results⟩] }
  | .addImport i => { imports := [i] }
  | .freezeImports => { freezes := true }
  | .declareFunction type => { functions := [type], freezes := true }
  | .declareTable type => { tables := [type], freezes := true }
  | .declareMemory type => { memories := [type], freezes := true }
  | .declareGlobal type init => { globals := [⟨type, init⟩], freezes := true }
  | .addBody body => { bodies := [body] }
  | .defineFunction type body => { functions := [type], bodies := [body], freezes := true }
  | .addExport e => { exports := [e] }
  | .setStart f => { start := some f }
  | .addElement s => { elements := [s] }
  | .addData s => { data := [s] }
  | _ => {}

/-- One more for each import, in its space. -/
def SpaceCounts.bumpAll (c : SpaceCounts) (imports : List Import) : SpaceCounts :=
  imports.foldl (fun c i => c.bump i.desc.space) c

/-- The module with an addition. -/
def Module.extend (m : Module) (a : Addition) : Module where
  types := m.types ++ a.types
  imports :=
    ⟨m.imports.entries ++ a.imports, m.imports.counts.bumpAll a.imports,
      m.imports.frozen || a.freezes⟩
  functions := m.functions ++ a.functions
  tables := m.tables ++ a.tables
  memories := m.memories ++ a.memories
  globals := m.globals ++ a.globals
  exports := m.exports ++ a.exports
  start := a.start <|> m.start
  elements := m.elements ++ a.elements
  bodies := m.bodies ++ a.bodies
  data := m.data ++ a.data
  usesData := m.usesData || a.bodies.any (·.code.usesData)

namespace Module

variable (m : Module)

/-- Freezing leaves the imports frozen, also when they were before. -/
theorem freezeImports_state :
    m.freezeImports.state = { m with imports := { m.imports with frozen := true } } := by
  unfold freezeImports ImportTable.freeze
  cases h : m.imports.frozen with
  | true => rw [if_pos rfl, ← h]
  | false => rw [if_neg (by simp)]

/-! ## Operations that can fail -/

/-- Frozen imports take no more. -/
theorem perform_addImport_of_frozen (i : Import) (h : m.imports.frozen = true) :
    m.perform (.addImport i) = ⟨m, .error (.frozenSpace i.desc.space i.module i.field), []⟩ := by
  simp only [perform, addImport, ImportTable.add, h, if_true]
  rfl

/-- An import gets the number of imports that its space had before. -/
theorem perform_addImport_of_not_frozen (i : Import) (h : m.imports.frozen = false) :
    m.perform (.addImport i) = ⟨m.extend { imports := [i] },
      .ok (.index (m.imports.count i.desc.space)),
      [.imported i.module i.field i.desc.space (m.imports.count i.desc.space)]⟩ := by
  simp [perform, addImport, ImportTable.add, h, Step.mapOutcome, extend, SpaceCounts.bumpAll]
  rfl

/-- A function is not defined while functions and bodies are out of step. -/
theorem perform_defineFunction_of_error (type : TypeIdx) (body : FunctionBody) {e : BuildError}
    (h : m.check = .error e) : m.perform (.defineFunction type body) = ⟨m, .error e, []⟩ := by
  rw [perform, defineFunction, h]
  rfl

/-- A function that is defined gets the index after the local functions. -/
theorem perform_defineFunction_of_ok (type : TypeIdx) (body : FunctionBody)
    (h : m.check = .ok ()) :
    (m.perform (.defineFunction type body)).result
        = .ok (.index (m.imports.count .func + nextIndex m.functions)) ∧
      (m.perform (.defineFunction type body)).state
        = m.extend { functions := [type], bodies := [body], freezes := true } := by
  simp [perform, defineFunction, h, Step.mapOutcome, Step.andThen, declareFunction, addBody,
    freezeImports_state, extend, SpaceCounts.bumpAll]
  rfl

/-! ## All operations -/

/-- **An operation adds what it should, or it fails, changes nothing and reports nothing.** Imports
are added only as long as they are not frozen. -/
theorem perform_cases (op : Operation) :
    (∃ out, (m.perform op).result = .ok out ∧ (m.perform op).state = m.extend op.addition ∧
      (op.addition.imports ≠ [] → m.imports.frozen = false)) ∨
    ∃ e, m.perform op = ⟨m, .error e, []⟩ := by
  cases op with
  | addImport i =>
    cases h : m.imports.frozen with
    | true => exact Or.inr ⟨_, perform_addImport_of_frozen m i h⟩
    | false =>
      rw [perform_addImport_of_not_frozen m i h]
      exact Or.inl ⟨_, rfl, rfl, fun _ => rfl⟩
  | defineFunction type body =>
    cases h : m.check with
    | error e => exact Or.inr ⟨e, perform_defineFunction_of_error m type body h⟩
    | ok u =>
      obtain ⟨hresult, hstate⟩ := perform_defineFunction_of_ok m type body h
      exact Or.inl ⟨_, hresult, hstate, fun h => absurd rfl h⟩
  | check =>
    cases h : m.check with
    | error e => exact Or.inr ⟨e, by rw [perform, h]; rfl⟩
    | ok u =>
      refine Or.inl ⟨.done, by rw [perform, h]; rfl, ?_, fun h => absurd rfl h⟩
      simp [perform, Operation.addition, extend, SpaceCounts.bumpAll]
  | _ =>
    -- the others succeed in every state
    refine Or.inl ⟨_, rfl, ?_, fun h => absurd rfl h⟩
    simp [perform, Step.toOutcome, Step.andThen, declareType, freezeImports_state,
      declareFunction, declareTable, declareMemory, declareGlobal, addBody, addExport, setStart,
      addElement, addData, serialize, writeTo, Operation.addition, extend, SpaceCounts.bumpAll]

end Module

end WasmBuilder
