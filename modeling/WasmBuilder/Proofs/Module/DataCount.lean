import WasmBuilder.Proofs.Code.Emission
import WasmBuilder.Proofs.Module.Bodies
import WasmBuilder.Proofs.Reader.Types
import WasmBuilder.Proofs.Reader.Walk

/-!
# The number of data segments

A module announces how many data segments it has when a segment is passive, or when a body has an
instruction that names segments. That fact comes a long way: a code is marked when such an
instruction is put in, a body carries its code's mark into the module, and the mark is looked at
when the module is written.

1. A body that comes with its construction, a `BodyScript`, is marked if and only if one of the two
   instructions on segments was put in (`BodyScript.usesData_body`).
2. `Performed.announces` tells which operations of a run make the number necessary. The number is
   announced after a run if and only if there was one (`Module.isSome_dataCount_after`).
3. A `ScriptedOperation` has a construction where an operation has a body, which joins the two.
-/

namespace WasmBuilder

/-! ## Bodies -/

/-- A body by its construction: its locals, and the operations on an empty code, which may fail. -/
structure BodyScript where
  locals : List LocalGroup
  operations : List Code.Operation

namespace BodyScript

/-- The body that is constructed. -/
def body (b : BodyScript) : FunctionBody := ⟨b.locals, Code.empty.after b.operations⟩

/-- One of the two instructions that name data segments was put in as an instruction. -/
def UsesData (b : BodyScript) : Prop :=
  .memoryInit ∈ Code.empty.emitted b.operations ∨ .dataDrop ∈ Code.empty.emitted b.operations

instance (b : BodyScript) : Decidable b.UsesData := inferInstanceAs (Decidable (_ ∨ _))

theorem usesData_body (b : BodyScript) : b.body.code.usesData = true ↔ b.UsesData := by
  show (Code.empty.after b.operations).usesData = true ↔ _
  rw [Code.usesData_after]
  simp only [Code.empty, Bool.false_or, List.any_eq_true, Operator.usesData, Bool.or_eq_true,
    beq_iff_eq, UsesData]
  constructor
  · rintro ⟨o, hmem, rfl | rfl⟩
    · exact Or.inl hmem
    · exact Or.inr hmem
  · rintro (hmem | hmem)
    · exact ⟨_, hmem, Or.inl rfl⟩
    · exact ⟨_, hmem, Or.inr rfl⟩

end BodyScript

/-! ## Runs -/

/-- Whether the operation made it necessary to announce the number of data segments: it added a body
that uses data, or a passive segment. -/
def Performed.announces (p : Performed) : Bool :=
  p.addition.bodies.any (·.code.usesData) || p.addition.data.any DataSegment.isPassive

/-- Whether the operation added a data segment. -/
def Performed.addsData : Performed → Bool
  | ⟨.addData _, _⟩ => true
  | _ => false

namespace Module

theorem isSome_dataCount (m : Module) :
    m.dataCount.isSome = (m.usesData || m.data.any DataSegment.isPassive) := by
  unfold dataCount DataSegment.anyPassive
  cases m.usesData || m.data.any DataSegment.isPassive <;> rfl

theorem isSome_dataCount_perform (m : Module) (op : Operation) :
    (m.perform op).state.dataCount.isSome
      = (m.dataCount.isSome || (m.performed op).announces) := by
  rw [perform_state, isSome_dataCount, isSome_dataCount, Performed.announces]
  simp only [extend, List.any_append]
  ac_rfl

/-- **The number is announced after a run if it was before, or if one of the operations made it
necessary.** -/
theorem isSome_dataCount_after (m : Module) (ops : List Operation) :
    (m.after ops).dataCount.isSome
      = (m.dataCount.isSome || (m.trace ops).any Performed.announces) := by
  induction ops generalizing m with
  | nil => exact (Bool.or_false _).symm
  | cons op ops ih =>
    rw [after_cons, ih, isSome_dataCount_perform, trace_cons, List.any_cons, Bool.or_assoc]

theorem eq_nextIndex_of_dataCount {m : Module} {n : UInt32} (h : m.dataCount = some n) :
    n = nextIndex m.data := by
  unfold dataCount at h
  split at h
  · exact (Option.some.inj h).symm
  · cases h

theorem data_after (m : Module) (ops : List Operation) :
    (m.after ops).data = m.data ++ (m.trace ops).flatMap (·.addition.data) :=
  entries_after (·.data) (·.data) (fun _ _ => rfl) m ops

theorem length_data_after (m : Module) (ops : List Operation) :
    (m.after ops).data.length = m.data.length + (m.trace ops).countP Performed.addsData := by
  have hstep (m : Module) (op : Operation) : (m.performed op).addition.data.length
      = (m.performed op).addsData.toNat + false.toNat := by
    unfold performed Performed.addition Performed.succeeded
    cases op with
    -- these may fail, but add no segment either way
    | addImport | check | defineFunction =>
      generalize (m.perform _).result = r
      cases r <;> rfl
    | _ => rfl
  rw [data_after, List.length_append, length_flatMap_eq_countP_add
    (p := Performed.addsData) (q := fun _ => false) (forall_mem_trace hstep m ops),
    List.countP_false]
  rfl

/-- A walk finds the number of data segments at the head of their section, and no section if there
are none. -/
theorem walk_finds_data (m : Module) :
    ∃ found, walk m.serialize.result = some found ∧
      (∀ payload, (SectionId.data.byte, payload) ∈ found →
        ∃ rest, Leb128.readUnsigned payload = some (m.data.length, rest)) ∧
      ((∀ payload, (SectionId.data.byte, payload) ∉ found) → m.data = []) := by
  refine ⟨_, walk_serialize_result m, fun payload hmem => ?_, fun habsent => ?_⟩
  · obtain ⟨s, hs, heq⟩ := List.mem_map.mp hmem
    obtain ⟨hid, rfl⟩ := Prod.mk.inj heq
    have hsection := sectionOf_id_of_mem (List.mem_filter.mp hs).1
    rw [SectionId.byte_inj hid] at hsection
    have hcontent : Write.toBytesAll s.content
        = Leb128.unsigned m.data.length ++ m.data.flatMap Binary.toBytes := by
      rw [← hsection, show m.sectionOf .data = .ofEntries .data m.data by
        simp [sectionOf, sections]]
      exact Binary.toBytes_list m.data
    exact ⟨_, by rw [hcontent, Leb128.readUnsigned_unsigned]⟩
  · refine Decidable.byContradiction fun hne => ?_
    obtain ⟨s, hs, hid⟩ := (m.exists_written_iff .data).mpr hne
    exact habsent _ (List.mem_map.mpr ⟨s, hs, by rw [hid]⟩)

end Module

/-! ## Operations with the construction of their bodies -/

/-- An operation; where it takes a body, the body comes with its construction. -/
inductive ScriptedOperation where
  | addBody (script : BodyScript)
  | defineFunction (type : TypeIdx) (script : BodyScript)
  /-- An operation that takes no body. -/
  | other (op : Operation) (h : op.addition.bodies = [] := by rfl)

namespace ScriptedOperation

def operation : ScriptedOperation → Operation
  | addBody script => .addBody script.body
  | defineFunction type script => .defineFunction type script.body
  | other op _ => op

/-- The operation, given what it gave back, calls for the number of data segments. The definition
of a function does so only if it succeeded; of all other operations only a passive segment does. -/
def CallsForCount : ScriptedOperation → Except BuildError Outcome → Prop
  | addBody script, _ => script.UsesData
  | defineFunction _ script, result => result.isOk = true ∧ script.UsesData
  | other (.addData s) _, _ => s.isPassive = true
  | other _ _, _ => False

theorem announces_performed (m : Module) (s : ScriptedOperation) :
    (m.performed s.operation).announces = true ↔
      s.CallsForCount (m.perform s.operation).result := by
  unfold Module.performed Performed.announces Performed.addition Performed.succeeded
  cases s with
  | addBody script =>
    show (script.body.code.usesData || false || false) = true ↔ _
    rw [Bool.or_false, Bool.or_false]
    exact script.usesData_body
  | defineFunction type script =>
    generalize (m.perform _).result = r
    cases r with
    | error e => exact iff_of_false Bool.false_ne_true fun h => Bool.false_ne_true h.1
    | ok out =>
      show (script.body.code.usesData || false || false) = true ↔ true = true ∧ script.UsesData
      rw [Bool.or_false, Bool.or_false, script.usesData_body]
      exact (and_iff_right rfl).symm
  | other op h =>
    cases op with
    | addBody | defineFunction => cases h
    | addData segment =>
      show (false || (segment.isPassive || false)) = true ↔ segment.isPassive = true
      rw [Bool.false_or, Bool.or_false]
    | addImport | check =>
      generalize (m.perform _).result = r
      cases r <;> exact iff_of_false Bool.false_ne_true id
    | _ => exact iff_of_false Bool.false_ne_true id

/-- The module after operations on an empty one. -/
def moduleAfter (script : List ScriptedOperation) : Module :=
  Module.empty.after (script.map operation)

theorem moduleAfter_append (script later : List ScriptedOperation) :
    moduleAfter (script ++ later) = (moduleAfter script).after (later.map operation) := by
  rw [moduleAfter, List.map_append, Module.after_append]
  rfl

/-- The number is announced after a script if and only if an operation of it called for that. -/
theorem isSome_dataCount_iff (script : List ScriptedOperation) :
    (moduleAfter script).dataCount.isSome = true ↔
      ∃ before s later, script = before ++ s :: later ∧
        s.CallsForCount ((moduleAfter before).perform s.operation).result := by
  constructor
  · intro hsome
    rw [moduleAfter, Module.isSome_dataCount_after] at hsome
    obtain ⟨p, hmem, hp⟩ := List.any_eq_true.mp hsome
    obtain ⟨before, later, hcut⟩ := List.append_of_mem hmem
    obtain ⟨first, op, rest, hops, -, rfl, -⟩ := Module.exists_of_trace_eq hcut
    -- where the run is cut, the script is cut
    obtain ⟨before, tail, rfl, rfl, htail⟩ := List.map_eq_append_iff.mp hops
    obtain ⟨s, later, rfl, rfl, -⟩ := List.map_eq_cons_iff.mp htail
    exact ⟨before, s, later, rfl, (announces_performed _ s).mp hp⟩
  · rintro ⟨before, s, later, rfl, hs⟩
    have hannounces := (announces_performed (moduleAfter before) s).mpr hs
    rw [moduleAfter_append, List.map_cons, Module.after_cons, Module.isSome_dataCount_after,
      Module.isSome_dataCount_perform, hannounces, Bool.or_true, Bool.true_or]

/-- **Announcing the number of data segments.** After every run of an empty module, the number is
announced if and only if some operation of the run called for it: it added a passive segment, or it
added or successfully defined a body into whose code one of the two instructions on segments was put
as an instruction. The number is that of all segments, which also stands at the head of the section
of segments, or zero if there is no such section. However the run goes on, a number remains
announced. -/
theorem dataCount_announced_iff (script : List ScriptedOperation)
    (h : (moduleAfter script).data.length < UInt32.size) :
    ((moduleAfter script).dataCount.isSome = true ↔
      ∃ before s later, script = before ++ s :: later ∧
        s.CallsForCount ((moduleAfter before).perform s.operation).result) ∧
    (∀ n, (moduleAfter script).dataCount = some n →
      n.toNat = (moduleAfter script).data.length ∧
      n.toNat = (Module.empty.trace (script.map operation)).countP Performed.addsData ∧
      ∃ found, walk (moduleAfter script).serialize.result = some found ∧
        (∀ payload, (SectionId.data.byte, payload) ∈ found →
          ∃ rest, Leb128.readUnsigned payload = some (n.toNat, rest)) ∧
        ((∀ payload, (SectionId.data.byte, payload) ∉ found) → n = 0)) ∧
    ((moduleAfter script).dataCount.isSome = true →
      ∀ later, (moduleAfter (script ++ later)).dataCount.isSome = true) := by
  refine ⟨isSome_dataCount_iff script, fun n hn => ?_, fun hsome later => ?_⟩
  · have hnext := Module.eq_nextIndex_of_dataCount hn
    have hlength : n.toNat = (moduleAfter script).data.length := by
      rw [hnext]
      exact UInt32.toNat_ofNat_of_lt h
    obtain ⟨found, hfound, hhead, habsent⟩ := (moduleAfter script).walk_finds_data
    refine ⟨hlength, ?_, found, hfound, ?_, fun hnone => ?_⟩
    · rw [hlength, moduleAfter, Module.length_data_after]
      exact Nat.zero_add _
    · rw [hlength]
      exact hhead
    · rw [hnext, habsent hnone]
      rfl
  · rw [moduleAfter_append, Module.isSome_dataCount_after, hsome, Bool.true_or]

/-- A script with all that does not call for the number: a global and an active segment whose
expressions use data, a body with the raw bytes of `data.drop` and an instruction that is rejected,
and a function with a proper `data.drop` that cannot be defined because a body came before it. -/
def quietScript : List ScriptedOperation := [
  .other (.declareGlobal ⟨.i32, false⟩ (Code.empty.push ⟨.dataDrop, (⟨0⟩, ())⟩)),
  .other (.addData ⟨.active ⟨0⟩ (Code.empty.push ⟨.dataDrop, (⟨0⟩, ())⟩), [0x01]⟩),
  .addBody ⟨[], [.raw (.bytes [0xfc, 0x09, 0x00]), .checked .memoryInit [⟨.data, ⟨0⟩⟩]]⟩,
  .defineFunction ⟨0⟩ ⟨[], [.typed ⟨.dataDrop, (⟨0⟩, ())⟩]⟩]

/-- A body with a `data.drop` that is accepted. -/
def droppingBody : ScriptedOperation := .addBody ⟨[], [.checked .dataDrop [⟨.data, ⟨0⟩⟩]]⟩

theorem dataCount_announced_iff_quietScript :
    (moduleAfter (quietScript ++ [droppingBody])).data.length < UInt32.size ∧
      (¬ ∃ before s later, quietScript = before ++ s :: later ∧
        s.CallsForCount ((moduleAfter before).perform s.operation).result) ∧
      (moduleAfter (quietScript ++ [droppingBody])).dataCount = some 1 ∧
      (∃ before s later, quietScript ++ [droppingBody] = before ++ s :: later ∧
        s.CallsForCount ((moduleAfter before).perform s.operation).result) ∧
      ∀ later, (moduleAfter (quietScript ++ [droppingBody] ++ later)).dataCount.isSome = true := by
  have h : (moduleAfter (quietScript ++ [droppingBody])).data.length < UInt32.size := by decide
  have hcount : (moduleAfter (quietScript ++ [droppingBody])).dataCount = some 1 := by decide +kernel
  obtain ⟨hquiet, -, -⟩ := dataCount_announced_iff quietScript (by decide)
  obtain ⟨hcalls, -, hstays⟩ := dataCount_announced_iff (quietScript ++ [droppingBody]) h
  have hsome : (moduleAfter (quietScript ++ [droppingBody])).dataCount.isSome = true := by
    rw [hcount]
    rfl
  refine ⟨h, fun hexists => ?_, hcount, hcalls.mp hsome, hstays hsome⟩
  exact absurd (hquiet.mpr hexists) (by decide +kernel)

end ScriptedOperation

end WasmBuilder
