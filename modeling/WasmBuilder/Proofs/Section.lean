import WasmBuilder.Module.Basic
import WasmBuilder.Proofs.Leb128
import WasmBuilder.Proofs.Sink

/-!
# Sizes of sections

The size of a section is announced before its contents are written, and it is computed in another
way than they are. For the sections of a module the two agree: a section that is written at all
announces exactly the number of its bytes. A section of entries has size zero only if it has no
entries, because the number of entries takes a byte of its own.
-/

namespace WasmBuilder

/-- Whether sections with this id hold a list of entries. -/
def SectionId.holdsEntries : SectionId → Bool
  | .custom => false
  | .start => false
  | .dataCount => false
  | _ => true

namespace Section

/-- The size announced is that of the contents, unless the section is left out. -/
def WellSized (s : Section) : Prop := s.size ≠ 0 → s.size = (Write.toBytesAll s.content).length

/-- The bytes of a section, its id and size included. -/
def toBytes (s : Section) : Bytes := Write.toBytesAll s.framed

theorem toBytes_of_size_eq_zero {s : Section} (h : s.size = 0) : s.toBytes = [] := by
  rw [toBytes, framed, if_pos h, Write.toBytesAll_nil]

/-- A section that is written starts with its id and its size. -/
theorem toBytes_of_size_ne_zero {s : Section} (h : s.size ≠ 0) :
    s.toBytes = s.id.byte :: (Leb128.unsigned s.size ++ Write.toBytesAll s.content) := by
  rw [toBytes, framed, if_neg h]
  rfl

/-! ## The sections of a module -/

variable {α : Type} [Binary α]

@[simp] theorem id_ofEntries (id : SectionId) (entries : List α) :
    (ofEntries id entries).id = id := rfl

@[simp] theorem id_ofBodies (bodies : List FunctionBody) : (ofBodies bodies).id = .code := rfl

@[simp] theorem id_ofStart (start : Option FuncIdx) : (ofStart start).id = .start := by
  cases start <;> rfl

@[simp] theorem id_ofDataCount (n : Option UInt32) : (ofDataCount n).id = .dataCount := by
  cases n <;> rfl

/-- A section of entries is left out only if it has no entries. -/
@[simp] theorem size_ofEntries_eq_zero_iff {id : SectionId} {entries : List α} :
    (ofEntries id entries).size = 0 ↔ entries = [] := by
  have hpos : 0 < Binary.size entries := by
    rw [Binary.size_eq_length]
    show 0 < (Leb128.unsigned entries.length ++ _).length
    rw [List.length_append, Leb128.length_unsigned]
    exact Nat.add_pos_left (Leb128.unsignedSize_pos _) _
  cases entries with
  | nil => exact iff_of_true rfl rfl
  | cons x xs => exact iff_of_false (Nat.ne_of_gt hpos) (List.cons_ne_nil x xs)

theorem wellSized_ofEntries (id : SectionId) (entries : List α) :
    (ofEntries id entries).WellSized := by
  intro h
  have hne : entries ≠ [] := fun he => h (size_ofEntries_eq_zero_iff.mpr he)
  show (if entries.isEmpty then 0 else Binary.size entries) = _
  rw [if_neg (by simpa using hne), Binary.size_eq_length]
  rfl

@[simp] theorem size_ofBodies_eq_zero_iff {bodies : List FunctionBody} :
    (ofBodies bodies).size = 0 ↔ bodies = [] := by
  rw [ofBodies, size_ofEntries_eq_zero_iff, List.map_eq_nil_iff]

@[simp] theorem size_ofStart_eq_zero_iff {start : Option FuncIdx} :
    (ofStart start).size = 0 ↔ start = none := by
  cases start with
  | none => exact iff_of_true rfl rfl
  | some f =>
    have hpos : 0 < Binary.size f := Nat.lt_of_lt_of_eq (Leb128.unsignedSize_pos f.val.toNat)
      (Nat.zero_add _).symm
    exact iff_of_false (Nat.ne_of_gt hpos) (Option.some_ne_none f)

theorem wellSized_ofStart (start : Option FuncIdx) : (ofStart start).WellSized := by
  cases start with
  | none => exact fun h => absurd rfl h
  | some f => exact fun _ => Binary.size_eq_length f

@[simp] theorem size_ofDataCount_eq_zero_iff {n : Option UInt32} :
    (ofDataCount n).size = 0 ↔ n = none := by
  cases n with
  | none => exact iff_of_true rfl rfl
  | some n =>
    exact iff_of_false (Nat.ne_of_gt (Leb128.unsignedSize_pos n.toNat)) (Option.some_ne_none n)

theorem wellSized_ofDataCount (n : Option UInt32) : (ofDataCount n).WellSized := by
  cases n with
  | none => exact fun h => absurd rfl h
  | some n =>
    intro _
    show Leb128.unsignedSize n.toNat = (Leb128.unsigned n.toNat ++ []).length
    rw [List.append_nil, Leb128.length_unsigned]

end Section

namespace Module

/-- **Every section of a module announces its own size.** -/
theorem wellSized_sections (m : Module) : ∀ s ∈ m.sections, s.WellSized := by
  simp only [sections, List.forall_mem_cons, Section.ofBodies, Section.wellSized_ofEntries,
    Section.wellSized_ofStart, Section.wellSized_ofDataCount, List.not_mem_nil, false_implies,
    implies_true, and_self]

/-- The section of a module with a given id. There is no custom section, so that one is empty. -/
def sectionOf (m : Module) (id : SectionId) : Section :=
  (m.sections.find? (·.id = id)).getD ⟨id, 0, []⟩

/-- No two sections of a module share their id. -/
theorem sectionOf_id_of_mem {m : Module} {s : Section} (hs : s ∈ m.sections) :
    m.sectionOf s.id = s := by
  simp only [sections, List.mem_cons, List.not_mem_nil, or_false] at hs
  rcases hs with rfl | rfl | rfl | rfl | rfl | rfl | rfl | rfl | rfl | rfl | rfl | rfl <;>
    simp [sectionOf, sections]

/-- A module is its magic number, its version and then its sections. -/
theorem serialize_result (m : Module) :
    m.serialize.result = [0x00, 0x61, 0x73, 0x6d, 0x01, 0x00, 0x00, 0x00] ++
      m.sections.flatMap Section.toBytes := by
  show Write.toBytesAll (header ++ m.sections.flatMap Section.framed) = _
  rw [Write.toBytesAll_append]
  congr 1
  exact List.flatMap_assoc

end Module

end WasmBuilder
