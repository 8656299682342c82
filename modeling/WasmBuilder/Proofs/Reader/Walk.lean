import WasmBuilder.Proofs.Reader.Basic
import WasmBuilder.Proofs.Section
import WasmBuilder.Reader.Contents

/-!
# Walking from section to section

A walk trusts the sizes that it finds. It gets through a module because every section that is
written announces its own size, and it finds exactly the sections with something in them, in the
order in which a module lists its sections.
-/

namespace WasmBuilder

/-- Whether a module has anything to say in a section. -/
def Module.Occupies (m : Module) : SectionId → Prop
  | .custom => False
  | .type => m.types ≠ []
  | .imports => m.imports.entries ≠ []
  | .function => m.functions ≠ []
  | .table => m.tables ≠ []
  | .memory => m.memories ≠ []
  | .global => m.globals ≠ []
  | .exports => m.exports ≠ []
  | .start => m.start ≠ none
  | .element => m.elements ≠ []
  | .dataCount => m.dataCount ≠ none
  | .code => m.bodies ≠ []
  | .data => m.data ≠ []

/-- The sections that are written. -/
def Module.written (m : Module) : List Section := m.sections.filter (·.size ≠ 0)

/-! ## The walk -/

/-- Sections that are left out leave no bytes. -/
theorem Section.flatMap_toBytes_filter : ∀ ss : List Section,
    (ss.filter (·.size ≠ 0)).flatMap Section.toBytes = ss.flatMap Section.toBytes
  | [] => rfl
  | s :: ss => by
    by_cases h : s.size = 0
    · rw [List.filter_cons_of_neg (by simp [h]), flatMap_toBytes_filter ss, List.flatMap_cons,
        toBytes_of_size_eq_zero h, List.nil_append]
    · rw [List.filter_cons_of_pos (by simp [h]), List.flatMap_cons, flatMap_toBytes_filter ss,
        List.flatMap_cons]

/-- A walk takes one step for each section that announces its size. -/
theorem walkWithin_flatMap : ∀ (ss : List Section) (fuel : Nat), ss.length ≤ fuel →
    (∀ s ∈ ss, s.size ≠ 0 ∧ s.WellSized) →
      walkWithin fuel (ss.flatMap Section.toBytes)
        = some (ss.map fun s => (s.id.byte, Write.toBytesAll s.content))
  | [], _, _, _ => by rw [List.flatMap_nil, walkWithin, List.map_nil]
  | s :: ss, 0, hfuel, _ => absurd hfuel (by simp)
  | s :: ss, fuel + 1, hfuel, h => by
    obtain ⟨hne, hsize⟩ := h s List.mem_cons_self
    have ih := walkWithin_flatMap ss fuel (by simpa using hfuel)
      fun t ht => h t (List.mem_cons_of_mem s ht)
    have hs := hsize hne
    rw [List.flatMap_cons, Section.toBytes_of_size_ne_zero hne, List.cons_append, walkWithin,
      List.append_assoc, Leb128.readUnsigned_unsigned]
    simp only [bind, Option.bind, hs, List.length_append, List.take_left, List.drop_left, ih]
    rw [if_pos (by omega)]
    rfl

/-- **A walk through a module finds the sections that are written.** -/
theorem walk_serialize_result (m : Module) :
    walk m.serialize.result
      = some (m.written.map fun s => (s.id.byte, Write.toBytesAll s.content)) := by
  have hwritten : ∀ s ∈ m.written, s.size ≠ 0 ∧ s.WellSized := by
    intro s hs
    obtain ⟨hmem, hne⟩ := List.mem_filter.mp hs
    exact ⟨by simpa using hne, m.wellSized_sections s hmem⟩
  have hlen : m.written.length ≤ (m.written.flatMap Section.toBytes).length := by
    refine Reader.length_le_length_flatMap m.written fun s hs => ?_
    rw [Section.toBytes_of_size_ne_zero (hwritten s hs).1]
    exact List.cons_ne_nil _ _
  rw [m.serialize_result, ← Section.flatMap_toBytes_filter, walk]
  refine walkWithin_flatMap m.written _ ?_ hwritten
  rw [List.length_append]
  exact Nat.le_trans hlen (Nat.le_add_left _ _)

/-! ## Which sections are found -/

/-- Sections with the same byte have the same id. -/
theorem SectionId.byte_inj {a b : SectionId} (h : a.byte = b.byte) : a = b := by
  cases a <;> cases b <;> first | rfl | exact absurd h (by decide)

/-- A section is written exactly when there is something in it. -/
theorem Module.exists_written_iff (m : Module) (id : SectionId) :
    (∃ s ∈ m.written, s.id = id) ↔ m.Occupies id := by
  have hwritten : (∃ s ∈ m.written, s.id = id) ↔ ∃ s ∈ m.sections, s.size ≠ 0 ∧ s.id = id := by
    simp only [written, List.mem_filter, decide_eq_true_eq, and_assoc]
  rw [hwritten]
  cases id <;> simp [sections, Occupies]

/--
**Walking through a module.**

A serialized module starts with its header of eight bytes. The walk after it, from each id byte and
size to the next, ends at the last byte. The ids that it sees come in the order of the format, each
at most once, and an id is seen exactly when the module has something to say in that section.
-/
theorem walk_serialize (m : Module) :
    m.serialize.result.take 8 = [0x00, 0x61, 0x73, 0x6d, 0x01, 0x00, 0x00, 0x00] ∧
      ∃ found : List (UInt8 × Bytes), walk m.serialize.result = some found ∧
        (found.map Prod.fst).Sublist [1, 2, 3, 4, 5, 6, 7, 8, 9, 12, 10, 11] ∧
        (found.map Prod.fst).Nodup ∧
        ∀ id : SectionId, id.byte ∈ found.map Prod.fst ↔ m.Occupies id := by
  have hids : (m.written.map fun s => (s.id.byte, Write.toBytesAll s.content)).map Prod.fst
      = m.written.map (·.id.byte) := List.map_map
  have hsub : (m.written.map (·.id.byte)).Sublist [1, 2, 3, 4, 5, 6, 7, 8, 9, 12, 10, 11] := by
    have hall : m.sections.map (·.id.byte) = [1, 2, 3, 4, 5, 6, 7, 8, 9, 12, 10, 11] := by
      simp [Module.sections, SectionId.byte]
    rw [← hall]
    exact List.filter_sublist.map _
  refine ⟨by rw [m.serialize_result]; rfl, _, walk_serialize_result m, ?_⟩
  rw [hids]
  refine ⟨hsub, hsub.nodup (by decide), fun id => ?_⟩
  rw [← m.exists_written_iff id, List.mem_map]
  constructor
  · rintro ⟨s, hs, hid⟩
    exact ⟨s, hs, SectionId.byte_inj hid⟩
  · rintro ⟨s, hs, rfl⟩
    exact ⟨s, hs, rfl⟩

end WasmBuilder
