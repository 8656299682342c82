import WasmBuilder.Proofs.Module.DataCount

/-!
# The order of filling

Sections come in a fixed order when a module is written, so it should not matter in which order they
were filled. A `Population` has the entries of each section, in order, but nothing about the order
between sections.

1. A run without failures leaves the module with the population that its operations ask for
   (`Module.population_after`).
2. The bytes of a module depend on its population alone. The one thing besides entries that they
   depend on is the mark for data segments, and a module is marked if and only if one of its bodies
   is (`Module.MarksBodies`).
-/

namespace WasmBuilder

/-- Entries for each section of a module. -/
@[ext]
structure Population where
  types : List FuncType
  imports : List Import
  functions : List TypeIdx
  tables : List TableType
  memories : List MemType
  globals : List Global
  exports : List Export
  start : Option FuncIdx
  elements : List ElementSegment
  bodies : List FunctionBody
  data : List DataSegment
deriving DecidableEq

/-- What operations ask for in each section, in their order; of the start functions the last one
counts. -/
def Population.ofOperations (ops : List Operation) : Population where
  types := ops.flatMap (·.addition.types)
  imports := ops.flatMap (·.addition.imports)
  functions := ops.flatMap (·.addition.functions)
  tables := ops.flatMap (·.addition.tables)
  memories := ops.flatMap (·.addition.memories)
  globals := ops.flatMap (·.addition.globals)
  exports := ops.flatMap (·.addition.exports)
  start := (ops.filterMap (·.addition.start)).getLast?
  elements := ops.flatMap (·.addition.elements)
  bodies := ops.flatMap (·.addition.bodies)
  data := ops.flatMap (·.addition.data)

namespace Module

/-- The entries of a module. -/
def population (m : Module) : Population where
  types := m.types
  imports := m.imports.entries
  functions := m.functions
  tables := m.tables
  memories := m.memories
  globals := m.globals
  exports := m.exports
  start := m.start
  elements := m.elements
  bodies := m.bodies
  data := m.data

/-! ## What a run leaves -/

theorem map_addition_trace {m : Module} {ops : List Operation}
    (h : ∀ p ∈ m.trace ops, p.succeeded = true) :
    (m.trace ops).map Performed.addition = ops.map Operation.addition := by
  induction ops generalizing m with
  | nil => rfl
  | cons op ops ih =>
    rw [trace_cons] at h ⊢
    obtain ⟨hop, hops⟩ := List.forall_mem_cons.mp h
    rw [List.map_cons, List.map_cons, addition_performed hop, ih hops]

/-- A list of entries after a run without failures of an empty module is what the operations ask
for. -/
theorem entries_after_empty {α : Type} {ops : List Operation}
    (h : ∀ p ∈ empty.trace ops, p.succeeded = true) (entries : Module → List α)
    (added : Addition → List α) (hextend : ∀ m a, entries (m.extend a) = entries m ++ added a)
    (hempty : entries empty = []) : entries (empty.after ops) = ops.flatMap (added ·.addition) := by
  rw [entries_after entries added hextend, hempty, List.nil_append,
    ← List.flatMap_map (f := Performed.addition), map_addition_trace h, List.flatMap_map]

/-- **A run without failures leaves the population that its operations ask for.** -/
theorem population_after {ops : List Operation}
    (h : ∀ p ∈ empty.trace ops, p.succeeded = true) :
    (empty.after ops).population = .ofOperations ops := by
  have hstart : (empty.after ops).start = (ops.filterMap (·.addition.start)).getLast? := by
    have hset := congrArg (List.filterMap Addition.start) (map_addition_trace h)
    rw [List.filterMap_map, List.filterMap_map] at hset
    rw [start_after, show empty.start = none from rfl, Option.or_none]
    exact congrArg List.getLast? hset
  have hlist {α : Type} (entries : Module → List α) (added : Addition → List α) :=
    entries_after_empty h entries added
  exact Population.ext
    (hlist (·.types) (·.types) (fun _ _ => rfl) rfl)
    (hlist (·.imports.entries) (·.imports) (fun _ _ => rfl) rfl)
    (hlist (·.functions) (·.functions) (fun _ _ => rfl) rfl)
    (hlist (·.tables) (·.tables) (fun _ _ => rfl) rfl)
    (hlist (·.memories) (·.memories) (fun _ _ => rfl) rfl)
    (hlist (·.globals) (·.globals) (fun _ _ => rfl) rfl)
    (hlist (·.exports) (·.exports) (fun _ _ => rfl) rfl)
    hstart
    (hlist (·.elements) (·.elements) (fun _ _ => rfl) rfl)
    (hlist (·.bodies) (·.bodies) (fun _ _ => rfl) rfl)
    (hlist (·.data) (·.data) (fun _ _ => rfl) rfl)

/-! ## What is written -/

/-- A module is marked for data segments if and only if one of its bodies is. -/
def MarksBodies (m : Module) : Prop := m.usesData = m.bodies.any (·.code.usesData)

theorem MarksBodies.after {m : Module} (h : m.MarksBodies) (ops : List Operation) :
    (m.after ops).MarksBodies := by
  induction ops generalizing m with
  | nil => exact h
  | cons op ops ih =>
    have hstep : (m.perform op).state.MarksBodies := by
      unfold MarksBodies at h ⊢
      rw [perform_state, extend, h, List.any_append]
    exact ih hstep

theorem marksBodies_after_empty (ops : List Operation) : (empty.after ops).MarksBodies :=
  MarksBodies.after (m := empty) rfl ops

/-- Modules with the same population have the same sections, in all that is written of them. -/
theorem sections_eq_of_population_eq {m m' : Module} (hm : m.MarksBodies) (hm' : m'.MarksBodies)
    (h : m.population = m'.population) : m.sections = m'.sections := by
  obtain ⟨htypes, himports, hfunctions, htables, hmemories, hglobals, hexports, hstart, helements,
    hbodies, hdata⟩ := Population.mk.inj h
  -- without the invariant on marks, the bodies would not tell whether the number is announced
  have hcount : m.dataCount = m'.dataCount := by
    unfold dataCount
    rw [hm, hm', hbodies, hdata]
  unfold sections
  rw [htypes, himports, hfunctions, htables, hmemories, hglobals, hexports, hstart, helements,
    hcount, hbodies, hdata]

/-- **The order of filling does not show.** Two runs of an empty module in which no operation fails
and which ask for the same entries in each section give the same bytes. Steps on different sections
may come in any order, and a function may be defined at once or be declared and get its body later. -/
theorem serialize_ignores_order {ops ops' : List Operation}
    (hops : ∀ p ∈ empty.trace ops, p.succeeded = true)
    (hops' : ∀ p ∈ empty.trace ops', p.succeeded = true)
    (h : Population.ofOperations ops = Population.ofOperations ops') :
    (empty.after ops).serialize.result = (empty.after ops').serialize.result := by
  have hpopulation : (empty.after ops).population = (empty.after ops').population := by
    rw [population_after hops, population_after hops', h]
  rw [serialize_result, serialize_result, sections_eq_of_population_eq (marksBodies_after_empty ops)
    (marksBodies_after_empty ops') hpopulation]

/-- A run that goes through the sections in the order of the format and defines its functions. -/
def orderlyRun : List Operation := [
  .declareType [] [.i32],
  .addImport ⟨"env", "f", .func ⟨0⟩⟩,
  .defineFunction ⟨0⟩ ⟨[], Code.empty.push ⟨.dataDrop, (⟨0⟩, ())⟩⟩,
  .defineFunction ⟨0⟩ ⟨[⟨1, .i32⟩], Code.empty⟩,
  .addExport ⟨"g", .func, 1⟩,
  .setStart ⟨2⟩,
  .addData ⟨.passive, [0x01]⟩]

/-- A run that goes the other way, with functions and bodies apart, a start function that is
replaced and operations that only look. -/
def reversedRun : List Operation := [
  .addData ⟨.passive, [0x01]⟩,
  .addBody ⟨[], Code.empty.push ⟨.dataDrop, (⟨0⟩, ())⟩⟩,
  .setStart ⟨7⟩,
  .setStart ⟨2⟩,
  .addExport ⟨"g", .func, 1⟩,
  .serialize,
  .addBody ⟨[⟨1, .i32⟩], Code.empty⟩,
  .addImport ⟨"env", "f", .func ⟨0⟩⟩,
  .freezeImports,
  .declareFunction ⟨0⟩,
  .declareFunction ⟨0⟩,
  .declareType [] [.i32],
  .check]

theorem serialize_ignores_order_reversedRun :
    (∀ p ∈ empty.trace orderlyRun, p.succeeded = true) ∧
      (∀ p ∈ empty.trace reversedRun, p.succeeded = true) ∧
      Population.ofOperations orderlyRun = Population.ofOperations reversedRun ∧
      (empty.after orderlyRun).serialize.result = (empty.after reversedRun).serialize.result := by
  have hordered : ∀ p ∈ empty.trace orderlyRun, p.succeeded = true := by decide
  have hreversed : ∀ p ∈ empty.trace reversedRun, p.succeeded = true := by decide
  have h : Population.ofOperations orderlyRun = Population.ofOperations reversedRun := rfl
  exact ⟨hordered, hreversed, h, serialize_ignores_order hordered hreversed h⟩

end Module

end WasmBuilder
