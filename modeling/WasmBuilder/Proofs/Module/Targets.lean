import WasmBuilder.Proofs.Module.Population

/-!
# The sections that an operation touches

An operation adds to the sections that it is meant for and leaves the bytes of all others alone. The
number of data segments is the one section that no operation is meant for: it follows from the
bodies and the segments, and may have to change along with them.

1. `Operation.fills` names the sections that an operation is meant for, and `Module.movesCount`
   tells whether it also changes the number of data segments. Together they are the targets.
2. The entries of a section are a list whatever their type (`Population.entriesOf`), so that "one
   more entry at the end" is said once for all sections (`Module.entriesOf_perform`).
3. A section of entries is determined by its entries (`Module.sectionOf_eq_ofEntries`), and the other
   two by the start function and by the number of data segments.
-/

namespace WasmBuilder

/-- The sections that an operation is meant for. -/
def Operation.fills : Operation → List SectionId
  | .declareType _ _ => [.type]
  | .addImport _ => [.imports]
  | .declareFunction _ => [.function]
  | .declareTable _ => [.table]
  | .declareMemory _ => [.memory]
  | .declareGlobal _ _ => [.global]
  | .addBody _ => [.code]
  | .defineFunction _ _ => [.function, .code]
  | .addExport _ => [.exports]
  | .setStart _ => [.start]
  | .addElement _ => [.element]
  | .addData _ => [.data]
  | _ => []

namespace Module

/-- Whether an operation changes the number of data segments that the module announces. A body does
so if it is the first that calls for the number, a passive segment always does, and an active one
does if the number is announced already. -/
def movesCount (m : Module) : Operation → Bool
  | .addBody body => body.code.usesData && m.dataCount.isNone
  | .defineFunction _ body => body.code.usesData && m.dataCount.isNone
  | .addData s => s.isPassive || m.dataCount.isSome
  | _ => false

/-- The sections that an operation may change. -/
def targets (m : Module) (op : Operation) : List SectionId :=
  op.fills ++ if m.movesCount op then [.dataCount] else []

end Module

/-! ## Entries of any type -/

/-- The entries of a section, in their binary form; bodies have their lengths in front. -/
def Population.entriesOf (p : Population) : SectionId → List Encoded
  | .custom => []
  | .type => p.types.map .of
  | .imports => p.imports.map .of
  | .function => p.functions.map .of
  | .table => p.tables.map .of
  | .memory => p.memories.map .of
  | .global => p.globals.map .of
  | .exports => p.exports.map .of
  | .start => []
  | .element => p.elements.map .of
  | .dataCount => []
  | .code => (p.bodies.map Framed.mk).map .of
  | .data => p.data.map .of

/-- An operation asks for one entry in each section of entries that it is meant for, and for none in
the others. -/
theorem Operation.length_entriesOf (op : Operation) {id : SectionId}
    (h : id.holdsEntries = true) :
    ((Population.ofOperations [op]).entriesOf id).length = if id ∈ op.fills then 1 else 0 := by
  cases id with
  | custom | start | dataCount => cases h
  | _ => cases op <;> rfl

/-- It makes no difference to a section whether its entries still have their types. -/
theorem Section.ofEntries_map_of {α : Type} [Binary α] (id : SectionId) (entries : List α) :
    ofEntries id (entries.map Encoded.of) = ofEntries id entries := by
  have hwrites : Binary.writes (entries.map Encoded.of) = Binary.writes entries := by
    show Write.len (entries.map Encoded.of).length ::
      (entries.map Encoded.of).flatMap Binary.writes = _
    rw [List.length_map, List.flatMap_map]
    rfl
  unfold ofEntries Binary.size
  rw [hwrites, List.isEmpty_map]

namespace Module

theorem sectionOf_eq_ofEntries (m : Module) {id : SectionId} (h : id.holdsEntries = true) :
    m.sectionOf id = .ofEntries id (m.population.entriesOf id) := by
  cases id with
  | custom | start | dataCount => cases h
  | _ =>
    rw [Population.entriesOf, Section.ofEntries_map_of]
    simp [sectionOf, sections, Section.ofBodies, population]

/-- The contents of a section of entries are their number and then the entries. -/
theorem content_sectionOf (m : Module) {id : SectionId} (h : id.holdsEntries = true) :
    Write.toBytesAll (m.sectionOf id).content
      = Leb128.unsigned (m.population.entriesOf id).length ++
        (m.population.entriesOf id).flatMap Binary.toBytes := by
  rw [sectionOf_eq_ofEntries m h]
  exact Binary.toBytes_list _

/-! ## One operation -/

/-- **An operation that succeeds adds to a section of entries what it asks for there.** -/
theorem entriesOf_perform {m : Module} {op : Operation}
    (h : (m.perform op).result.isOk = true) (id : SectionId) :
    (m.perform op).state.population.entriesOf id
      = m.population.entriesOf id ++ (Population.ofOperations [op]).entriesOf id := by
  rw [state_of_succeeded h]
  cases id <;> simp [population, extend, Population.entriesOf, Population.ofOperations]

theorem start_perform {m : Module} {op : Operation} (h : (m.perform op).result.isOk = true)
    (hstart : .start ∉ op.fills) : (m.perform op).state.start = m.start := by
  rw [state_of_succeeded h]
  cases op with
  | setStart f => exact absurd (List.mem_singleton.mpr rfl) hstart
  | _ => rfl

/-- The number of data segments that is announced depends on whether it is, and if so, on the
segments. -/
theorem dataCount_congr {m m' : Module} (hsome : m'.dataCount.isSome = m.dataCount.isSome)
    (hdata : m.dataCount.isSome = true → m'.data = m.data) : m'.dataCount = m.dataCount := by
  cases h : m.dataCount with
  | none =>
    rw [h] at hsome
    exact Option.isNone_iff_eq_none.mp (Option.isSome_eq_false_iff.mp hsome)
  | some n =>
    rw [h] at hsome hdata
    obtain ⟨n', h'⟩ := Option.isSome_iff_exists.mp hsome
    rw [h', eq_nextIndex_of_dataCount h', eq_nextIndex_of_dataCount h, hdata rfl]

theorem dataCount_perform {m : Module} {op : Operation} (h : (m.perform op).result.isOk = true)
    (hmoves : m.movesCount op = false) : (m.perform op).state.dataCount = m.dataCount := by
  refine dataCount_congr ?_ fun hsome => ?_
  · rw [isSome_dataCount_perform, Bool.or_eq_left_iff_imp, Performed.announces,
      addition_performed h]
    -- a body that makes the number necessary but does not move it found it announced
    intro hannounces
    cases op with
    | addBody body | defineFunction type body =>
      have huses : body.code.usesData = true := by simpa [Operation.addition] using hannounces
      simpa [movesCount, huses] using hmoves
    | addData s =>
      have hpassive : s.isPassive = true := by simpa [Operation.addition] using hannounces
      simp [movesCount, hpassive] at hmoves
    | _ => cases hannounces
  · rw [state_of_succeeded h]
    cases op with
    | addData s => simp [movesCount, hsome] at hmoves
    | _ => exact List.append_nil _

/-- A section that is no target of an operation is the same after it. -/
theorem sectionOf_perform {m : Module} {op : Operation} {id : SectionId}
    (h : (m.perform op).result.isOk = true) (hid : id ∉ m.targets op) :
    (m.perform op).state.sectionOf id = m.sectionOf id := by
  have hfills : id ∉ op.fills := fun hmem => hid (List.mem_append_left _ hmem)
  by_cases hentries : id.holdsEntries = true
  · have hnone : (Population.ofOperations [op]).entriesOf id = [] := by
      rw [← List.length_eq_zero_iff, op.length_entriesOf hentries, if_neg hfills]
    rw [sectionOf_eq_ofEntries _ hentries, sectionOf_eq_ofEntries _ hentries, entriesOf_perform h,
      hnone, List.append_nil]
  · -- what remains are the two sections that hold a number, and custom ones, which no module has
    cases id with
    | custom => simp [sectionOf, sections]
    | start => simp [sectionOf, sections, start_perform h hfills]
    | dataCount =>
      have hmoves : m.movesCount op = false := by
        refine Bool.eq_false_iff.mpr fun hmoves => hid ?_
        rw [targets, hmoves]
        exact List.mem_append_right _ (List.mem_singleton.mpr rfl)
      simp [sectionOf, sections, dataCount_perform h hmoves]
    | _ => exact absurd rfl hentries

theorem mem_fills_of_mem_targets {m : Module} {op : Operation} {id : SectionId}
    (hid : id ∈ m.targets op) (hentries : id.holdsEntries = true) : id ∈ op.fills := by
  rcases List.mem_append.mp hid with hmem | hmem
  · exact hmem
  · split at hmem
    · rw [List.mem_singleton.mp hmem] at hentries
      cases hentries
    · cases hmem

/-- **An operation touches no section but its targets.** The bytes of every other section stay the
same. A target that holds entries gets exactly one more at its end: its contents are then the number
of entries, which went up by one, the bytes of the old entries, as they were, and those of the new
one. -/
theorem perform_touches_targets (m : Module) (op : Operation)
    (h : (m.perform op).result.isOk = true) :
    (∀ id, id ∉ m.targets op →
      ((m.perform op).state.sectionOf id).toBytes = (m.sectionOf id).toBytes) ∧
    ∀ id ∈ m.targets op, id.holdsEntries = true →
      let old := m.population.entriesOf id
      ∃ new : Encoded, (Population.ofOperations [op]).entriesOf id = [new] ∧
        Write.toBytesAll (m.sectionOf id).content
          = Leb128.unsigned old.length ++ old.flatMap Binary.toBytes ∧
        Write.toBytesAll ((m.perform op).state.sectionOf id).content
          = Leb128.unsigned (old.length + 1) ++
            (old.flatMap Binary.toBytes ++ Binary.toBytes new) := by
  refine ⟨fun id hid => by rw [sectionOf_perform h hid], fun id hid hentries => ?_⟩
  intro old
  have hone : ((Population.ofOperations [op]).entriesOf id).length = 1 := by
    rw [op.length_entriesOf hentries, if_pos (mem_fills_of_mem_targets hid hentries)]
  obtain ⟨new, hnew⟩ := List.length_eq_one_iff.mp hone
  refine ⟨new, hnew, content_sectionOf m hentries, ?_⟩
  rw [content_sectionOf _ hentries, entriesOf_perform h, hnew, List.length_append,
    List.flatMap_append, List.flatMap_singleton]
  rfl

/-- A module with one body that does not use data, and a segment that nothing refers to yet. -/
def beforeDrop : Module := empty.after [
  .declareType [] [],
  .addBody ⟨[], Code.empty.push ⟨.nop, ()⟩⟩,
  .addData ⟨.active ⟨0⟩ Code.empty, [0x01]⟩]

/-- A body that uses data. -/
def dropBody : FunctionBody := ⟨[], Code.empty.push ⟨.dataDrop, (⟨0⟩, ())⟩⟩

theorem perform_touches_targets_beforeDrop :
    (beforeDrop.perform (.addBody dropBody)).result.isOk = true ∧
      beforeDrop.targets (.addBody dropBody) = [.code, .dataCount] ∧
      ((beforeDrop.perform (.addBody dropBody)).state.sectionOf .data).toBytes
        = (beforeDrop.sectionOf .data).toBytes ∧
      ∃ new : Encoded,
        (Population.ofOperations [.addBody dropBody]).entriesOf .code = [new] ∧
        Write.toBytesAll ((beforeDrop.perform (.addBody dropBody)).state.sectionOf .code).content
          = Leb128.unsigned 2 ++ ([0x02, 0x00, 0x01] ++ Binary.toBytes new) := by
  have htargets : beforeDrop.targets (.addBody dropBody) = [.code, .dataCount] := by
    decide +kernel
  obtain ⟨hother, htarget⟩ := perform_touches_targets beforeDrop (.addBody dropBody) rfl
  have hdata : SectionId.data ∉ beforeDrop.targets (.addBody dropBody) := by
    rw [htargets]
    decide
  have hcode : SectionId.code ∈ beforeDrop.targets (.addBody dropBody) := by
    rw [htargets]
    decide
  obtain ⟨new, hnew, -, hcontent⟩ := htarget .code hcode rfl
  have hold : (beforeDrop.population.entriesOf .code).flatMap Binary.toBytes
      = [0x02, 0x00, 0x01] := by decide +kernel
  rw [hold] at hcontent
  exact ⟨rfl, htargets, hother .data hdata, new, hnew, hcontent⟩

end Module

end WasmBuilder
