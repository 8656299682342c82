import WasmBuilder.Proofs.Module.Trace

/-!
# Failed operations

A module refuses an import once its imports are frozen, and it refuses to define a function while
functions and bodies are out of step. `Module.refuses` says so by looking at the state alone, before
the operation is tried.

An operation that fails leaves the module as it found it. Nothing of it can therefore be seen later
in a run: without its failed operations, a run goes through the same successful steps and ends in
the same module.
-/

namespace WasmBuilder.Module

/-! ## Which operations fail -/

/-- Whether the module, as it stands, refuses an operation. -/
def refuses (m : Module) : Operation → Bool
  | .addImport _ => m.imports.frozen
  | .defineFunction _ _ => m.functions.length != m.bodies.length
  | .check => m.functions.length != m.bodies.length
  | _ => false

theorem check_of_length_eq {m : Module} (h : m.functions.length = m.bodies.length) :
    m.check = .ok () :=
  if_pos h

theorem check_of_length_ne {m : Module} (h : m.functions.length ≠ m.bodies.length) :
    m.check = .error (.misalignedBodies m.functions.length m.bodies.length) :=
  if_neg h

theorem isOk_check (m : Module) :
    m.check.isOk = !(m.functions.length != m.bodies.length) := by
  by_cases h : m.functions.length = m.bodies.length
  · rw [check_of_length_eq h, h, bne_self_eq_false]
    rfl
  · rw [check_of_length_ne h, bne_iff_ne.mpr h]
    rfl

/-- **An operation succeeds unless the module refuses it.** -/
theorem succeeded_performed (m : Module) (op : Operation) :
    (m.performed op).succeeded = !m.refuses op := by
  cases op with
  | addImport i =>
    unfold performed refuses
    cases h : m.imports.frozen with
    | true =>
      rw [perform_addImport_of_frozen m i h]
      rfl
    | false =>
      rw [perform_addImport_of_not_frozen m i h]
      rfl
  | defineFunction type body =>
    unfold refuses
    rw [← isOk_check]
    cases h : m.check with
    | error e =>
      rw [performed, perform_defineFunction_of_error m type body h]
      rfl
    | ok u =>
      rw [performed, (perform_defineFunction_of_ok m type body h).1]
      rfl
  | check =>
    unfold refuses
    rw [← isOk_check]
    show (m.check.map fun _ => Outcome.done).isOk = _
    cases m.check <;> rfl
  | _ => rfl

/-- An operation that fails changes nothing and reports nothing. -/
theorem perform_eq_of_error {m : Module} {op : Operation} {e : BuildError}
    (h : (m.perform op).result = .error e) : m.perform op = ⟨m, .error e, []⟩ := by
  obtain ⟨out, hout, -, -⟩ | ⟨e', he⟩ := perform_cases m op
  · rw [hout] at h
    cases h
  · rw [he] at h ⊢
    cases h
    rfl

/-! ## Runs without their failed operations -/

/-- The operations of a run that succeed. -/
def succeeding (m : Module) (ops : List Operation) : List Operation :=
  ((m.trace ops).filter Performed.succeeded).map Performed.operation

/-- Induction along a run: an operation that succeeds moves on to the state that it leaves, and one
that fails is passed over. -/
@[elab_as_elim]
theorem run_induction {P : Module → List Operation → Prop} (nil : ∀ m, P m [])
    (succeeds : ∀ (m : Module) op ops, (m.performed op).succeeded = true →
      P (m.perform op).state ops → P m (op :: ops))
    (fails : ∀ (m : Module) op ops e, m.perform op = ⟨m, .error e, []⟩ → P m ops → P m (op :: ops))
    (m : Module) (ops : List Operation) : P m ops := by
  induction ops generalizing m with
  | nil => exact nil m
  | cons op ops ih =>
    cases hresult : (m.perform op).result with
    | ok out =>
      have hsucceeded : (m.performed op).succeeded = true := by
        rw [Performed.succeeded, performed, hresult]
        rfl
      exact succeeds m op ops hsucceeded (ih _)
    | error e => exact fails m op ops e (perform_eq_of_error hresult) (ih m)

theorem succeeding_cons_of_succeeded {m : Module} {op : Operation} (ops : List Operation)
    (h : (m.performed op).succeeded = true) :
    m.succeeding (op :: ops) = op :: (m.perform op).state.succeeding ops := by
  unfold succeeding
  rw [trace_cons, List.filter_cons_of_pos h, List.map_cons]
  rfl

theorem succeeding_cons_of_error {m : Module} {op : Operation} {e : BuildError}
    (ops : List Operation) (h : m.perform op = ⟨m, .error e, []⟩) :
    m.succeeding (op :: ops) = m.succeeding ops := by
  unfold succeeding
  rw [trace_cons, performed, h]
  rfl

/-- Without its failed operations a run consists of its successful steps: each ends in the same
state, gives back the same and reports the same. -/
theorem run_succeeding (m : Module) (ops : List Operation) :
    m.run (m.succeeding ops) = (m.run ops).filter (·.result.isOk) := by
  induction m, ops using run_induction with
  | nil m => rfl
  | succeeds m op ops h ih =>
    have hok : (m.perform op).result.isOk = true := h
    rw [succeeding_cons_of_succeeded ops h, run, run, ih, List.filter_cons, if_pos hok]
  | fails m op ops e h ih =>
    rw [succeeding_cons_of_error ops h, ih, run, h]
    rfl

/-- The operations that are left give back what they gave back before. -/
theorem trace_succeeding (m : Module) (ops : List Operation) :
    m.trace (m.succeeding ops) = (m.trace ops).filter Performed.succeeded := by
  induction m, ops using run_induction with
  | nil m => rfl
  | succeeds m op ops h ih =>
    rw [succeeding_cons_of_succeeded ops h, trace_cons, trace_cons, ih, List.filter_cons_of_pos h]
  | fails m op ops e h ih =>
    rw [succeeding_cons_of_error ops h, ih, trace_cons, performed, h]
    rfl

theorem after_succeeding (m : Module) (ops : List Operation) :
    m.after (m.succeeding ops) = m.after ops := by
  induction m, ops using run_induction with
  | nil m => rfl
  | succeeds m op ops h ih => rw [succeeding_cons_of_succeeded ops h, after_cons, after_cons, ih]
  | fails m op ops e h ih => rw [succeeding_cons_of_error ops h, ih, after_cons, h]

/-- **Failed operations have no effect.** An operation that the module refuses, and no other, fails,
and then every part of the module is as it was. A run can therefore be rid of its failed operations:
those that are left give back the same and leave the same module, with the same bytes. -/
theorem failures_have_no_effect (m : Module) :
    (∀ op, (m.perform op).result.isOk = false ↔ m.refuses op = true) ∧
    (∀ op e, (m.perform op).result = .error e → m.perform op = ⟨m, .error e, []⟩) ∧
    (∀ write : Bytes → Id (Except FileFailure Unit), (m.save write).run.state = m) ∧
    ∀ ops,
      m.trace (m.succeeding ops) = (m.trace ops).filter Performed.succeeded ∧
      m.run (m.succeeding ops) = (m.run ops).filter (·.result.isOk) ∧
      m.after (m.succeeding ops) = m.after ops ∧
      (m.after (m.succeeding ops)).serialize.result = (m.after ops).serialize.result := by
  refine ⟨fun op => ?_, fun op e => perform_eq_of_error, fun write => rfl, fun ops => ?_⟩
  · have h : (m.perform op).result.isOk = !m.refuses op := succeeded_performed m op
    rw [h, Bool.not_eq_false']
  · exact ⟨trace_succeeding m ops, run_succeeding m ops, after_succeeding m ops,
      by rw [after_succeeding]⟩

/-- A run in which an import comes too late, a function cannot be defined because another one is
missing, and the check says so. -/
def troubledRun : List Operation := [
  .addImport ⟨"env", "f", .func ⟨0⟩⟩,
  .declareTable ⟨.funcRef, ⟨1, none⟩⟩,
  .addImport ⟨"env", "late", .global ⟨.i32, false⟩⟩,
  .addBody ⟨[], Code.empty⟩,
  .defineFunction ⟨0⟩ ⟨[], Code.empty⟩,
  .check,
  .declareFunction ⟨0⟩,
  .defineFunction ⟨1⟩ ⟨[], Code.empty⟩]

theorem failures_have_no_effect_troubledRun :
    (empty.after (troubledRun.take 4)).perform (.defineFunction ⟨0⟩ ⟨[], Code.empty⟩)
        = ⟨empty.after (troubledRun.take 4), .error (.misalignedBodies 0 1), []⟩ ∧
      empty.after [
          .addImport ⟨"env", "f", .func ⟨0⟩⟩,
          .declareTable ⟨.funcRef, ⟨1, none⟩⟩,
          .addBody ⟨[], Code.empty⟩,
          .declareFunction ⟨0⟩,
          .defineFunction ⟨1⟩ ⟨[], Code.empty⟩]
        = empty.after troubledRun := by
  obtain ⟨-, herror, -, -⟩ := failures_have_no_effect (empty.after (troubledRun.take 4))
  obtain ⟨-, -, -, hrun⟩ := failures_have_no_effect empty
  exact ⟨herror _ _ rfl, (hrun troubledRun).2.2.1⟩

end WasmBuilder.Module
