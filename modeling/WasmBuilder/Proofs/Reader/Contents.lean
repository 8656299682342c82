import WasmBuilder.Module.Operation
import WasmBuilder.Proofs.Reader.Stream
import WasmBuilder.Proofs.Section
import WasmBuilder.Reader.Contents

/-!
# Reading back modules

Serializing a module and reading the bytes gives what the module says.

1. **Entries.** Each kind of entry is read back with arbitrary bytes after it. The expressions
   inside of globals and segments carry no length, so they have to be expressions.
2. **Sections.** A section that is left out is told from one that is written by the next byte: it is
   the id of a later section, and no two sections of a module share their id.
3. **Modules.** The reader asks for the sections one after the other, in the order of the module.
-/

namespace WasmBuilder

/-- All expressions inside of the entries of a module end where they should. Bodies have their
length in front and may hold anything. -/
structure Module.HasExpressions (m : Module) : Prop where
  globals : ∀ g ∈ m.globals, g.init.IsExpression
  elements : ∀ s ∈ m.elements, s.offset.IsExpression
  data : ∀ s ∈ m.data, ∀ mem offset, s.mode = .active mem offset → offset.IsExpression

namespace Reader

/-! ## Entries -/

theorem reads_global {g : Global} (h : g.init.IsExpression) :
    Reads global (Binary.toBytes g) ⟨g.type, g.init.bytes⟩ := by
  refine ((reads_globalType g.type).bind (reads_expression h).bind_pure).congr ?_
  show Write.toBytesAll (Binary.writes g.type ++ [.bytes g.init.bytes]) = _
  rw [Write.toBytesAll_append, Write.toBytesAll_cons, Write.toBytesAll_nil, List.append_nil]
  rfl

theorem reads_exportEntry (e : Export) : Reads exportEntry (Binary.toBytes e) e :=
  (reads_name e.name).bind ((reads_space e.kind).bind ((reads_u32 e.index).bind (reads_pure e)))

/-- An element segment is read back in either of its forms. -/
theorem reads_element {s : ElementSegment} (h : s.offset.IsExpression) :
    Reads element (Binary.toBytes s) ⟨s.table, s.offset.bytes, s.funcs⟩ := by
  have hfuncs := reads_listOf (fun _ => rfl) reads_index s.funcs
  by_cases htable : s.table.val = 0
  · have hform : Binary.toBytes s
        = Leb128.unsigned 0 ++ (s.offset.bytes ++ Binary.toBytes s.funcs) := by
      simp [Binary.toBytes, Binary.writes, htable, Write.toBytes]
    have hzero : s.table = ⟨0⟩ := by rw [← htable]
    rw [hform, hzero]
    exact (reads_u32 0).bind ((reads_expression h).bind hfuncs.bind_pure)
  · have hform : Binary.toBytes s = Leb128.unsigned 2 ++ (Binary.toBytes s.table ++
        (s.offset.bytes ++ ([0x00] ++ Binary.toBytes s.funcs))) := by
      simp [Binary.toBytes, Binary.writes, htable, Write.toBytes]
    rw [hform]
    exact (reads_u32 2).bind ((reads_index s.table).bind ((reads_expression h).bind
      ((reads_expect [0x00]).bind hfuncs.bind_pure)))

/-- A data segment is read back in each of its three forms. -/
theorem reads_data {s : DataSegment}
    (h : ∀ mem offset, s.mode = .active mem offset → offset.IsExpression) :
    Reads data (Binary.toBytes s) ⟨s.mode.place, s.bytes⟩ := by
  have hbytes : Reads (list byte) (Binary.toBytes s.bytes) s.bytes :=
    reads_listOf (fun _ => rfl) reads_byte s.bytes
  have hform : Binary.toBytes s = Binary.toBytes s.mode ++ Binary.toBytes s.bytes :=
    Write.toBytesAll_append _ _
  cases hmode : s.mode with
  | passive =>
    have hform' : Binary.toBytes DataMode.passive = Leb128.unsigned 1 := List.append_nil _
    rw [hform, hmode, hform']
    exact (reads_u32 1).bind hbytes.bind_pure
  | active mem offset =>
    have hoffset := reads_expression (h mem offset hmode)
    by_cases hmem : mem.val = 0
    · have hform' : Binary.toBytes (DataMode.active mem offset)
          = Leb128.unsigned 0 ++ offset.bytes := by
        simp [Binary.toBytes, Binary.writes, hmem, Write.toBytes]
      have hzero : mem = ⟨0⟩ := by rw [← hmem]
      rw [hform, hmode, hform', List.append_assoc, hzero]
      exact (reads_u32 0).bind (hoffset.bind hbytes.bind_pure)
    · have hform' : Binary.toBytes (DataMode.active mem offset)
          = Leb128.unsigned 2 ++ (Binary.toBytes mem ++ offset.bytes) := by
        simp [Binary.toBytes, Binary.writes, hmem, Write.toBytes]
      rw [hform, hmode, hform', List.append_assoc, List.append_assoc]
      exact (reads_u32 2).bind ((reads_index mem).bind (hoffset.bind hbytes.bind_pure))

/-- A body is read back from the bytes that its length encloses, whatever its instructions are. -/
theorem reads_body (b : FunctionBody) :
    Reads body (Binary.toBytes (Framed.mk b)) ⟨b.locals, b.code.bytes⟩ := by
  have hparts : Binary.toBytes b = Binary.toBytes b.locals ++ b.code.bytes := by
    show Write.toBytesAll (Binary.writes b.locals ++ [.bytes b.code.bytes]) = _
    rw [Write.toBytesAll_append, Write.toBytesAll_cons, Write.toBytesAll_nil, List.append_nil]
    rfl
  intro lengths rest hallow
  rw [Framed.toBytes_mk, List.length_append] at hallow
  rw [Framed.toBytes_mk, List.append_assoc]
  have hb := hallow.mono (Nat.le_add_left _ _)
  refine run_within hb ?_ rest
  rw [hparts, List.length_append] at hb
  have hlocals := reads_listOf (fun _ => rfl) reads_localGroup b.locals lengths b.code.bytes
    (hb.mono (Nat.le_add_right _ _))
  rw [hparts, readAll, run_bind hlocals]
  rfl

/-! ## Sections -/

/-- What follows a section starts with the id of one of the sections after it. -/
theorem exists_id_of_flatMap_eq_cons : ∀ {ss : List Section} {b : UInt8} {bs : Bytes},
    ss.flatMap Section.toBytes = b :: bs → ∃ s ∈ ss, s.id.byte = b
  | [], _, _, h => by simp at h
  | s :: ss, b, bs, h => by
    rw [List.flatMap_cons] at h
    by_cases hsize : s.size = 0
    · rw [Section.toBytes_of_size_eq_zero hsize, List.nil_append] at h
      obtain ⟨t, ht, hid⟩ := exists_id_of_flatMap_eq_cons h
      exact ⟨t, List.mem_cons_of_mem s ht, hid⟩
    · rw [Section.toBytes_of_size_ne_zero hsize, List.cons_append] at h
      exact ⟨s, List.mem_cons_self, (List.cons.inj h).1⟩

variable {α β : Type} {lengths : Lengths} {ss : List Section}

/-- A section that is left out is not found, because what follows has another id. -/
theorem sectionOr_of_size_eq_zero {s : Section} (hsize : s.size = 0)
    (hids : ∀ t ∈ ss, t.id.byte ≠ s.id.byte) (absent : α) (r : Reader α) :
    sectionOr s.id.byte absent r lengths ((s :: ss).flatMap Section.toBytes)
      = some (absent, ss.flatMap Section.toBytes) := by
  rw [List.flatMap_cons, Section.toBytes_of_size_eq_zero hsize, List.nil_append]
  cases hrest : ss.flatMap Section.toBytes with
  | nil => rfl
  | cons b bs =>
    obtain ⟨t, ht, hid⟩ := exists_id_of_flatMap_eq_cons hrest
    rw [sectionOr, if_neg (hid ▸ hids t ht)]

/-- A section that is written is found, and its contents are read from no more than its size. -/
theorem sectionOr_of_size_ne_zero {s : Section} (hsize : s.size ≠ 0) (hs : s.WellSized)
    (hallow : lengths.Allow s.size) {r : Reader α} {x : α}
    (hr : Reads r (Write.toBytesAll s.content) x) (absent : α) :
    sectionOr s.id.byte absent r lengths ((s :: ss).flatMap Section.toBytes)
      = some (x, ss.flatMap Section.toBytes) := by
  have hlen := hs hsize
  rw [hlen] at hallow
  rw [List.flatMap_cons, Section.toBytes_of_size_ne_zero hsize, List.cons_append,
    List.append_assoc, sectionOr, if_pos rfl, hlen]
  exact run_within hallow (hr.readAll hallow) _

/-- **A section of entries is read back if each of its entries is.** -/
theorem sectionOr_ofEntries [Binary α] {r : Reader β} (id : SectionId) (b : UInt8)
    (hid : id.byte = b) (f : α → β) (entries : List α) (h0 : ∀ lengths, r lengths [] = none)
    (hr : ∀ x ∈ entries, Reads r (Binary.toBytes x) (f x)) (hids : ∀ t ∈ ss, t.id.byte ≠ b)
    (hallow : lengths.Allow (Section.ofEntries id entries).size) :
    sectionOr b [] (list r) lengths ((Section.ofEntries id entries :: ss).flatMap Section.toBytes)
      = some (entries.map f, ss.flatMap Section.toBytes) := by
  subst hid
  by_cases hsize : (Section.ofEntries id entries).size = 0
  · obtain rfl := Section.size_ofEntries_eq_zero_iff.mp hsize
    exact sectionOr_of_size_eq_zero (s := .ofEntries id []) hsize hids [] (list r)
  · have hlist := (reads_list entries h0 hr).congr (Binary.toBytes_list entries)
    exact sectionOr_of_size_ne_zero hsize (Section.wellSized_ofEntries id entries) hallow hlist []

theorem sectionOr_ofStart (start : Option FuncIdx)
    (hids : ∀ t ∈ ss, t.id.byte ≠ 8)
    (hallow : lengths.Allow (Section.ofStart start).size) :
    sectionOr 8 none (some <$> index) lengths
        ((Section.ofStart start :: ss).flatMap Section.toBytes)
      = some (start, ss.flatMap Section.toBytes) := by
  cases start with
  | none => exact sectionOr_of_size_eq_zero (s := .ofStart none) rfl hids none _
  | some f =>
    have hsize : (Section.ofStart (some f)).size ≠ 0 := by simp
    exact sectionOr_of_size_ne_zero hsize (Section.wellSized_ofStart _) hallow
      ((reads_index f).map some) none

theorem sectionOr_ofDataCount (n : Option UInt32)
    (hids : ∀ t ∈ ss, t.id.byte ≠ 12)
    (hallow : lengths.Allow (Section.ofDataCount n).size) :
    sectionOr 12 none (some <$> u32) lengths
        ((Section.ofDataCount n :: ss).flatMap Section.toBytes)
      = some (n, ss.flatMap Section.toBytes) := by
  cases n with
  | none => exact sectionOr_of_size_eq_zero (s := .ofDataCount none) rfl hids none _
  | some n =>
    have hsize : (Section.ofDataCount (some n)).size ≠ 0 := by simp
    exact sectionOr_of_size_ne_zero hsize (Section.wellSized_ofDataCount _) hallow
      (((reads_u32 n).map some).congr (List.append_nil _)) none

/-! ## Modules -/

/-- **The contents of a module are read back section by section.** -/
theorem contents_serialize {m : Module} (h : m.HasExpressions)
    (hallow : ∀ s ∈ m.sections, lengths.Allow s.size) :
    contents lengths m.serialize.result = some (m.contents, []) := by
  rw [m.serialize_result]
  simp only [Module.sections, List.forall_mem_cons, List.not_mem_nil, false_implies,
    implies_true, and_true] at hallow ⊢
  obtain ⟨h1, h2, h3, h4, h5, h6, h7, h8, h9, h12, h10, h11⟩ := hallow
  rw [contents, run_bind (expect_append _ _ lengths)]
  -- one step a section: the ids of the sections after it differ from its own
  rw [run_bind (sectionOr_ofEntries .type 1 rfl id m.types (fun _ => rfl)
    (fun t _ => reads_funcType t) (by simp [SectionId.byte]) h1)]
  rw [run_bind (sectionOr_ofEntries .imports 2 rfl id m.imports.entries
    (fun l => by cases l <;> rfl) (fun i _ => reads_importEntry i) (by simp [SectionId.byte]) h2)]
  rw [run_bind (sectionOr_ofEntries .function 3 rfl id m.functions (fun _ => rfl)
    (fun t _ => reads_index t) (by simp [SectionId.byte]) h3)]
  rw [run_bind (sectionOr_ofEntries .table 4 rfl id m.tables (fun _ => rfl)
    (fun t _ => reads_tableType t) (by simp [SectionId.byte]) h4)]
  rw [run_bind (sectionOr_ofEntries .memory 5 rfl id m.memories (fun _ => rfl)
    (fun t _ => reads_memType t) (by simp [SectionId.byte]) h5)]
  rw [run_bind (sectionOr_ofEntries .global 6 rfl _ m.globals (fun _ => rfl)
    (fun g hg => reads_global (h.globals g hg)) (by simp [SectionId.byte]) h6)]
  rw [run_bind (sectionOr_ofEntries .exports 7 rfl id m.exports (fun l => by cases l <;> rfl)
    (fun e _ => reads_exportEntry e) (by simp [SectionId.byte]) h7)]
  rw [run_bind (sectionOr_ofStart m.start (by simp [SectionId.byte]) h8)]
  rw [run_bind (sectionOr_ofEntries .element 9 rfl _ m.elements (fun _ => rfl)
    (fun s hs => reads_element (h.elements s hs)) (by simp [SectionId.byte]) h9)]
  rw [run_bind (sectionOr_ofDataCount m.dataCount (by simp [SectionId.byte]) h12)]
  rw [Section.ofBodies, run_bind (sectionOr_ofEntries .code 10 rfl _ (m.bodies.map Framed.mk)
    (fun l => by cases l <;> rfl) (fun b _ => reads_body b.value) (by simp [SectionId.byte]) h10)]
  rw [run_bind (sectionOr_ofEntries .data 11 rfl _ m.data (fun _ => rfl)
    (fun s hs => reads_data (h.data s hs)) (by simp [SectionId.byte]) h11)]
  simp only [List.map_id, List.map_map]
  rfl

end Reader

/-- What a module says is read from all of its bytes, if the sizes of its sections are allowed. -/
theorem Contents.read_of_allow {m : Module} (h : m.HasExpressions) {lengths : Lengths}
    (hallow : ∀ s ∈ m.sections, lengths.Allow s.size) :
    Contents.read lengths m.serialize.result = some m.contents := by
  rw [Contents.read, Reader.readAll, Reader.contents_serialize h hallow]

/--
**Reading a serialized module gives back its contents.**

This holds of every module, whatever operations it was built by, as long as the expressions inside
of its globals and segments end where they should. All bytes are read, and what is read are the
contents of every section, in order. The lengths in front of lists, texts, bodies and sections may
have any size; a reader that holds them to the 32 bits of the format reads the same as long as no
section has 2 ^ 32 bytes or more.
-/
theorem Contents.read_serialize (m : Module) (h : m.HasExpressions) :
    Contents.read .any m.serialize.result = some m.contents ∧
      ((∀ s ∈ m.sections, s.size < UInt32.size) →
        Contents.read (.bits 32) m.serialize.result = some m.contents) :=
  ⟨Contents.read_of_allow h fun _ _ => trivial, fun hsize => Contents.read_of_allow h hsize⟩

/-- A module with an expression that holds a block, segments in their longer forms, a passive
segment, a body that is no expression and no types at all. -/
def segmentedModule : Module := Module.empty.after [
  .addImport ⟨"env", "λ", .table ⟨.externRef, ⟨1, some 200⟩⟩⟩,
  .declareGlobal ⟨.i32, true⟩ (Code.empty.push ⟨.i32Const, (-65, ())⟩ |>.push .endBlock),
  .addElement ⟨⟨1⟩, Code.empty.push ⟨.block, (.value .i32, ())⟩ |>.push .endBlock |>.push .endBlock,
    [⟨7⟩, ⟨300⟩]⟩,
  .addData ⟨.active ⟨2⟩ (Code.empty.push .endBlock), [0x0b]⟩,
  .addData ⟨.passive, []⟩,
  .addBody ⟨[⟨2, .i64⟩], ⟨[0xff, 0x02], true⟩⟩]

theorem Contents.read_serialize_segmentedModule :
    segmentedModule.HasExpressions ∧ (∀ s ∈ segmentedModule.sections, s.size < UInt32.size) ∧
      Contents.read .any segmentedModule.serialize.result = some segmentedModule.contents ∧
      Contents.read (.bits 32) segmentedModule.serialize.result
        = some segmentedModule.contents := by
  have h : segmentedModule.HasExpressions := by
    refine ⟨fun g hg => ?_, fun s hs => ?_, fun s hs mem offset hmode => ?_⟩
    · obtain rfl := List.mem_singleton.mp hg
      exact ⟨[⟨.i32Const, (-65, ())⟩], .plain rfl (by decide) .nil, by simp [Code.empty]⟩
    · obtain rfl := List.mem_singleton.mp hs
      exact ⟨[⟨.block, (.value .i32, ())⟩, .endBlock], .block rfl .nil .nil, by simp [Code.empty]⟩
    · rcases List.mem_pair.mp hs with rfl | rfl
      · obtain ⟨rfl, rfl⟩ := DataMode.active.inj hmode
        exact ⟨[], .nil, by simp [Code.empty]⟩
      · cases hmode
  have hsize : ∀ s ∈ segmentedModule.sections, s.size < UInt32.size := by decide +kernel
  obtain ⟨hany, hbits⟩ := Contents.read_serialize segmentedModule h
  exact ⟨h, hsize, hany, hbits hsize⟩

end WasmBuilder
