import WasmBuilder.Proofs.Module.Failure

/-!
# Closing the imports

The list of imports is closed on request or by the first local definition, and it is never opened
again. `Performed.closesImports` names the operations that close it. The definition of a function
together with its body is one of them only where it succeeds.

1. The imports are frozen after a run if and only if one of its operations closed them
   (`Module.frozen_after_iff`).
2. Imports that are frozen stay as they are (`Module.imports_after_of_frozen`).
3. An import fails if and only if the imports are frozen, so that its place in the trace decides.
-/

namespace WasmBuilder

/-- Whether the operation, with what it gave back, closed the imports. -/
def Performed.closesImports : Performed → Bool
  | ⟨.freezeImports, _⟩ => true
  | ⟨.declareFunction _, _⟩ => true
  | ⟨.declareTable _, _⟩ => true
  | ⟨.declareMemory _, _⟩ => true
  | ⟨.declareGlobal _ _, _⟩ => true
  | ⟨.defineFunction _ _, result⟩ => result.isOk
  | _ => false

namespace Module

/-! ## What freezes the imports -/

theorem freezes_addition_performed (m : Module) (op : Operation) :
    (m.performed op).addition.freezes = (m.performed op).closesImports := by
  unfold performed Performed.addition Performed.succeeded
  cases op with
  | addImport | check | defineFunction =>
    -- these may fail, and then add nothing
    generalize (m.perform _).result = r
    cases r <;> rfl
  | _ => rfl

/-- An operation leaves the imports frozen if they were, or if it closes them. -/
theorem frozen_perform (m : Module) (op : Operation) :
    (m.perform op).state.imports.frozen = (m.imports.frozen || (m.performed op).closesImports) := by
  rw [perform_state, ← freezes_addition_performed]
  rfl

/-- **The imports are frozen after a run if they were before, or if an operation closed them.** -/
theorem frozen_after_iff (m : Module) (ops : List Operation) :
    (m.after ops).imports.frozen = true ↔
      m.imports.frozen = true ∨ ∃ p ∈ m.trace ops, p.closesImports = true := by
  induction ops generalizing m with
  | nil => simp
  | cons op ops ih =>
    rw [after_cons, ih, frozen_perform, Bool.or_eq_true, or_assoc]
    simp only [trace_cons, List.mem_cons, exists_eq_or_imp]

/-! ## What frozen imports refuse -/

/-- Frozen imports are not changed any more. -/
theorem imports_perform_of_frozen {m : Module} (h : m.imports.frozen = true) (op : Operation) :
    (m.perform op).state.imports = m.imports := by
  obtain ⟨out, -, hstate, himports⟩ | ⟨e, he⟩ := perform_cases m op
  · have hnone : op.addition.imports = [] := by
      refine Decidable.byContradiction fun hne => ?_
      rw [himports hne] at h
      cases h
    rw [hstate, extend, hnone, h, List.append_nil, Bool.true_or, ← h]
    rfl
  · rw [he]

theorem imports_after_of_frozen {m : Module} (h : m.imports.frozen = true) (ops : List Operation) :
    (m.after ops).imports = m.imports := by
  induction ops generalizing m with
  | nil => rfl
  | cons op ops ih =>
    have hstep := imports_perform_of_frozen h op
    rw [after_cons, ih (by rw [hstep, h]), hstep]

/-- An import fails if and only if the imports are frozen. -/
theorem addImport_fails_iff (m : Module) (i : Import) :
    (m.perform (.addImport i)).result.isOk = false ↔ m.imports.frozen = true := by
  have h : (m.perform (.addImport i)).result.isOk = !m.imports.frozen :=
    succeeded_performed m (.addImport i)
  rw [h, Bool.not_eq_false']

/-- Every import in a trace from a module with frozen imports is refused. -/
theorem result_of_mem_trace_of_frozen {m : Module} (h : m.imports.frozen = true)
    {ops : List Operation} {i : Import} {r : Except BuildError Outcome}
    (hmem : ⟨.addImport i, r⟩ ∈ m.trace ops) :
    r = .error (.frozenSpace i.desc.space i.module i.field) := by
  obtain ⟨before, later, hcut⟩ := List.append_of_mem hmem
  obtain ⟨first, op, rest, -, -, hp, -⟩ := exists_of_trace_eq hcut
  obtain ⟨rfl, rfl⟩ := Performed.mk.inj hp
  rw [perform_addImport_of_frozen _ i (by rw [imports_after_of_frozen h, h])]

/-! ## Runs of an empty module -/

/-- **Imports are refused from the first operation on that closes them, and only then.** An import
fails if and only if an operation before it in the trace closed the imports. The error then names it
and its space, and no import of any space succeeds after it. Whether the imports are frozen depends
on these operations alone: no other freezes them, and none unfreezes them. -/
theorem imports_refused_once_closed (ops : List Operation) :
    (∀ before i r later, empty.trace ops = before ++ ⟨.addImport i, r⟩ :: later →
      (r.isOk = false ↔ ∃ p ∈ before, p.closesImports = true) ∧
      (r.isOk = false →
        r = .error (.frozenSpace i.desc.space i.module i.field) ∧
        ∀ j s, ⟨.addImport j, s⟩ ∈ later →
          s = .error (.frozenSpace j.desc.space j.module j.field))) ∧
    ((empty.after ops).imports.frozen = true ↔ ∃ p ∈ empty.trace ops, p.closesImports = true) ∧
    ∀ op, ((empty.after ops).perform op).state.imports.frozen
      = ((empty.after ops).imports.frozen || ((empty.after ops).performed op).closesImports) := by
  have hfrozen : ∀ first, (empty.after first).imports.frozen = true ↔
      ∃ p ∈ empty.trace first, p.closesImports = true := by
    intro first
    rw [frozen_after_iff]
    exact or_iff_right Bool.false_ne_true
  refine ⟨?_, hfrozen ops, frozen_perform _⟩
  intro before i r later hcut
  obtain ⟨first, op, rest, -, rfl, hp, rfl⟩ := exists_of_trace_eq hcut
  obtain ⟨rfl, rfl⟩ := Performed.mk.inj hp
  have hfails := addImport_fails_iff (empty.after first) i
  refine ⟨hfails.trans (hfrozen first), fun hfail => ?_⟩
  have h := hfails.mp hfail
  rw [perform_addImport_of_frozen _ i h]
  exact ⟨rfl, fun j s hmem => result_of_mem_trace_of_frozen h hmem⟩

/-- A run in which a function cannot be defined yet, which leaves the imports open, and in which a
table then closes them. -/
def closingRun : List Operation := [
  .addBody ⟨[], Code.empty⟩,
  .defineFunction ⟨0⟩ ⟨[], Code.empty⟩,
  .addImport ⟨"env", "f", .func ⟨0⟩⟩,
  .declareTable ⟨.funcRef, ⟨1, none⟩⟩,
  .addImport ⟨"env", "m", .mem ⟨⟨1, none⟩⟩⟩,
  .declareType [] [],
  .addImport ⟨"env", "g", .global ⟨.i32, false⟩⟩]

theorem imports_refused_once_closed_closingRun :
    (¬ ∃ p ∈ empty.trace (closingRun.take 2), p.closesImports = true) ∧
      (∃ p ∈ empty.trace (closingRun.take 4), p.closesImports = true) ∧
      ∀ j s, ⟨.addImport j, s⟩ ∈ (empty.after (closingRun.take 5)).trace (closingRun.drop 5) →
        s = .error (.frozenSpace j.desc.space j.module j.field) := by
  obtain ⟨hcut, -, -⟩ := imports_refused_once_closed closingRun
  obtain ⟨hopen, -⟩ := hcut (empty.trace (closingRun.take 2)) ⟨"env", "f", .func ⟨0⟩⟩
    (.ok (.index 0)) ((empty.after (closingRun.take 3)).trace (closingRun.drop 3)) rfl
  obtain ⟨hclosed, hrefused⟩ := hcut (empty.trace (closingRun.take 4))
    ⟨"env", "m", .mem ⟨⟨1, none⟩⟩⟩ (.error (.frozenSpace .mem "env" "m"))
    ((empty.after (closingRun.take 5)).trace (closingRun.drop 5)) rfl
  exact ⟨fun h => absurd (hopen.mpr h) (by decide), hclosed.mp rfl, (hrefused rfl).2⟩

end Module

end WasmBuilder
