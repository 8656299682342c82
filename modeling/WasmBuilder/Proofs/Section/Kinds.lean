import WasmBuilder.Proofs.Leb128
import WasmBuilder.Proofs.Reader.Types
import WasmBuilder.Proofs.Section
import WasmBuilder.Section.State

/-!
# The twelve kinds of sections

Ten kinds of sections hold a list of entries, and two hold at most one number. A `SectionState` is
any of them with whatever it holds.

1. **Operations.** An operation leaves a section of the kind that it found, and one that fails leaves
   the section as it was.
2. **Sizes.** What a section announces is found in different ways: the size of a list is measured,
   that of a number is computed, and the bodies are each measured on their own before the list of
   them is. In all cases it is the number of bytes that follow.
-/

namespace WasmBuilder

namespace SectionState

/-! ## Operations -/

theorem id_toSection (s : SectionState) : s.toSection.id = s.id := by
  cases s with
  | start func => exact Section.id_ofStart func
  | dataCount n => exact Section.id_ofDataCount n
  | _ => rfl

/-- An operation leaves a section of the same kind. -/
theorem id_perform (s : SectionState) (op : SectionOperation s.id) :
    (s.perform op).state.id = s.id := by
  cases s <;> cases op <;> rfl

/-- Only imports can be refused, and a table of imports that refuses one stays as it is. -/
theorem perform_of_error {s : SectionState} {op : SectionOperation s.id} {err : BuildError}
    (h : (s.perform op).result = .error err) :
    (s.perform op).state = s ∧ (s.perform op).log = [] := by
  cases s with
  | imports table =>
    cases op with
    | addImport i =>
      cases hfrozen : table.frozen with
      | false => simp [perform, Step.map, ImportTable.add, hfrozen, Except.map] at h
      | true => simp [perform, Step.map, ImportTable.add, hfrozen]
    | freezeImports | importCount | lookupImport => cases h
  | _ => cases op <;> cases h

/-! ## Sizes -/

theorem size_toSection_eq_zero_iff (s : SectionState) :
    s.toSection.size = 0 ↔ s.isEmpty = true := by
  cases s <;> simp [toSection, isEmpty]

theorem wellSized_toSection (s : SectionState) : s.toSection.WellSized := by
  cases s with
  | start func => exact Section.wellSized_ofStart func
  | dataCount n => exact Section.wellSized_ofDataCount n
  | _ => exact Section.wellSized_ofEntries _ _

/-- An empty list still says that it has no entries; a number that is not set says nothing. -/
theorem content_of_isEmpty {s : SectionState} (h : s.isEmpty = true) :
    Write.toBytesAll s.toSection.content
      = if s.toSection.id.holdsEntries then Leb128.unsigned 0 else [] := by
  cases s with
  | start func =>
    obtain rfl := Option.isNone_iff_eq_none.mp h
    rfl
  | dataCount n =>
    obtain rfl := Option.isNone_iff_eq_none.mp h
    rfl
  | bodies entries =>
    obtain rfl := List.isEmpty_iff.mp h
    exact List.append_nil _
  | imports table =>
    have hnil : table.entries = [] := List.isEmpty_iff.mp h
    rw [toSection, hnil]
    exact List.append_nil _
  | _ entries =>
    obtain rfl := List.isEmpty_iff.mp h
    exact List.append_nil _

/-- The bodies are counted, and each one has its own length in front. -/
theorem content_bodies (bodies : List FunctionBody) :
    Write.toBytesAll (SectionState.bodies bodies).toSection.content
      = Leb128.unsigned bodies.length ++ bodies.flatMap fun b =>
          Leb128.unsigned (Binary.toBytes b).length ++ Binary.toBytes b := by
  show Binary.toBytes (bodies.map Framed.mk) = _
  rw [Binary.toBytes_list, List.length_map, List.flatMap_map]
  simp only [Framed.toBytes_mk]

/-- **Sections announce their size.** A section has size zero if and only if it holds nothing, and it
is then left out. Otherwise its size is the number of bytes of its contents, and what is written is
its id, the size in its shortest form and the contents. The contents of the bodies are their number
and then each body behind its own length. An empty list has contents all the same, the single byte
of the count zero. The sections of a module are of these kinds. -/
theorem sections_announce_their_size :
    (∀ s : SectionState,
      let sec := s.toSection
      let content := Write.toBytesAll sec.content
      (sec.size = 0 ↔ s.isEmpty = true) ∧
      (s.isEmpty = false → sec.size = content.length) ∧
      (s.isEmpty = true → sec.toBytes = []) ∧
      (s.isEmpty = false → sec.toBytes = sec.id.byte :: (Leb128.unsigned sec.size ++ content)) ∧
      Leb128.IsShortest (Leb128.unsigned sec.size) sec.size ∧
      (s.isEmpty = true → content = if sec.id.holdsEntries then [0x00] else [])) ∧
    (∀ bodies : List FunctionBody,
      Write.toBytesAll (SectionState.bodies bodies).toSection.content
        = Leb128.unsigned bodies.length ++ bodies.flatMap fun b =>
            Leb128.unsigned (Binary.toBytes b).length ++ Binary.toBytes b) ∧
    ∀ m : Module, m.sections = [
      types m.types, imports m.imports, functions m.functions, tables m.tables,
      memories m.memories, globals m.globals, exports m.exports, start m.start,
      elements m.elements, dataCount m.dataCount, SectionState.bodies m.bodies,
      data m.data].map toSection := by
  refine ⟨fun s => ?_, content_bodies, fun m => rfl⟩
  have hzero := s.size_toSection_eq_zero_iff
  have hne : s.isEmpty = false → s.toSection.size ≠ 0 := by
    intro h hsize
    rw [hzero.mp hsize] at h
    cases h
  refine ⟨hzero, fun h => s.wellSized_toSection (hne h), fun h => ?_, fun h => ?_,
    Leb128.isShortest_unsigned _, fun h => ?_⟩
  · exact Section.toBytes_of_size_eq_zero (hzero.mpr h)
  · exact Section.toBytes_of_size_ne_zero (hne h)
  · rw [content_of_isEmpty h, show Leb128.unsigned 0 = [0x00] by decide +kernel]

/-- A section of bodies that holds one with three locals in two runs. -/
def oneBody : SectionState := .bodies [
  ⟨[⟨2, .i32⟩, ⟨1, .f64⟩], ⟨[0x20, 0x00, 0x1a, 0x0b], false⟩⟩]

theorem sections_announce_their_size_oneBody :
    oneBody.isEmpty = false ∧
      oneBody.toSection.size = (Write.toBytesAll oneBody.toSection.content).length ∧
      oneBody.toSection.toBytes = 0x0a :: (Leb128.unsigned oneBody.toSection.size ++
        Write.toBytesAll oneBody.toSection.content) ∧
      (exports []).isEmpty = true ∧
      Write.toBytesAll (exports []).toSection.content = [0x00] ∧
      (exports []).toSection.toBytes = [] := by
  obtain ⟨hkinds, -, -⟩ := sections_announce_their_size
  obtain ⟨-, hsize, -, hbytes, -, -⟩ := hkinds oneBody
  obtain ⟨-, -, hnothing, -, -, hcontent⟩ := hkinds (exports [])
  exact ⟨rfl, hsize rfl, hbytes rfl, rfl, hcontent rfl, hnothing rfl⟩

end SectionState

end WasmBuilder
