import WasmBuilder.Proofs.Module.Addition

/-!
# Traces

A trace lists the operations of a run, each with what it gave back. Statements about whole histories
of a module are statements about traces.

1. A trace can be cut anywhere: what stands in front of an operation is the trace up to it, and what
   stands behind it is the trace from the state that it left (`Module.exists_of_trace_eq`).
2. An operation adds what the trace records of it (`Module.perform_state`), so that the entries of a
   module add up along a run (`Module.entries_after`), while of the start functions only the last one
   stays (`Module.start_after`).
-/

namespace WasmBuilder

/-- An operation of a run with what it gave back. -/
structure Performed where
  operation : Operation
  result : Except BuildError Outcome

namespace Performed

/-- Whether the operation succeeded. -/
def succeeded (p : Performed) : Bool := p.result.isOk

/-- What the operation added: nothing if it failed. -/
def addition (p : Performed) : Addition := if p.succeeded then p.operation.addition else {}

end Performed

namespace Module

/-- The operation, with what it gives back in this state. -/
def performed (m : Module) (op : Operation) : Performed := ⟨op, (m.perform op).result⟩

/-- The operations of a run, each with what it gave back. -/
def trace (m : Module) (ops : List Operation) : List Performed :=
  List.zipWith (fun op s => ⟨op, s.result⟩) ops (m.run ops)

@[simp] theorem trace_nil (m : Module) : m.trace [] = [] := rfl

@[simp] theorem trace_cons (m : Module) (op : Operation) (ops : List Operation) :
    m.trace (op :: ops) = m.performed op :: (m.perform op).state.trace ops := rfl

@[simp] theorem after_nil (m : Module) : m.after [] = m := rfl

@[simp] theorem after_cons (m : Module) (op : Operation) (ops : List Operation) :
    m.after (op :: ops) = (m.perform op).state.after ops := rfl

/-! ## Cutting a trace -/

/-- A run may be cut in two. -/
theorem after_append (m : Module) (ops later : List Operation) :
    m.after (ops ++ later) = (m.after ops).after later :=
  List.foldl_append

/-- Wherever a trace is cut, its parts are the traces of the parts of the run. -/
theorem exists_of_trace_eq {m : Module} {ops : List Operation} {before later : List Performed}
    {p : Performed} (h : m.trace ops = before ++ p :: later) :
    ∃ first op rest, ops = first ++ op :: rest ∧ before = m.trace first ∧
      p = (m.after first).performed op ∧ later = ((m.after first).perform op).state.trace rest := by
  induction before generalizing m ops with
  | nil =>
    cases ops with
    | nil => cases h
    | cons op ops =>
      obtain ⟨rfl, rfl⟩ := List.cons.inj h
      exact ⟨[], op, ops, rfl, rfl, rfl, rfl⟩
  | cons q before ih =>
    cases ops with
    | nil => cases h
    | cons op ops =>
      obtain ⟨rfl, htail⟩ := List.cons.inj h
      obtain ⟨first, op', rest, rfl, rfl, hp, hlater⟩ := ih htail
      exact ⟨op :: first, op', rest, rfl, rfl, hp, hlater⟩

/-- What holds of an operation in every state holds of every operation of a trace. -/
theorem forall_mem_trace {P : Performed → Prop} (h : ∀ (m : Module) op, P (m.performed op))
    (m : Module) (ops : List Operation) : ∀ p ∈ m.trace ops, P p := by
  intro p hp
  obtain ⟨before, later, hcut⟩ := List.append_of_mem hp
  obtain ⟨first, op, rest, -, -, rfl, -⟩ := exists_of_trace_eq hcut
  exact h _ op

/-! ## One step, and a run -/

theorem extend_nothing (m : Module) : m.extend {} = m := by
  simp [extend, SpaceCounts.bumpAll]

/-- An operation adds what it is recorded to have added. -/
theorem perform_state (m : Module) (op : Operation) :
    (m.perform op).state = m.extend (m.performed op).addition := by
  unfold performed Performed.addition Performed.succeeded
  obtain ⟨out, hout, hstate, -⟩ | ⟨e, he⟩ := perform_cases m op
  · rw [hstate, hout]
    rfl
  · rw [he]
    exact (extend_nothing m).symm

theorem addition_performed {m : Module} {op : Operation}
    (h : (m.performed op).succeeded = true) : (m.performed op).addition = op.addition :=
  if_pos h

theorem state_of_succeeded {m : Module} {op : Operation}
    (h : (m.performed op).succeeded = true) : (m.perform op).state = m.extend op.addition := by
  rw [perform_state, addition_performed h]

/-- **Entries add up along a run.** A list that additions make longer holds, after a run, what it held
before and then what the operations of the trace added, in order. -/
theorem entries_after {α : Type} (entries : Module → List α) (added : Addition → List α)
    (hextend : ∀ m a, entries (m.extend a) = entries m ++ added a) (m : Module)
    (ops : List Operation) :
    entries (m.after ops) = entries m ++ (m.trace ops).flatMap (added ·.addition) := by
  induction ops generalizing m with
  | nil => rw [trace_nil, List.flatMap_nil, List.append_nil, after_nil]
  | cons op ops ih =>
    have hstep : entries (m.perform op).state = entries m ++ added (m.performed op).addition := by
      rw [perform_state, hextend]
    rw [after_cons, ih, hstep, trace_cons, List.flatMap_cons, List.append_assoc]

/-- The start function after a run is the last one that was set, or the one before. -/
theorem start_after (m : Module) (ops : List Operation) :
    (m.after ops).start = ((m.trace ops).filterMap (·.addition.start)).getLast?.or m.start := by
  induction ops generalizing m with
  | nil => rfl
  | cons op ops ih =>
    have hstep : (m.perform op).state.start = ((m.performed op).addition.start <|> m.start) := by
      rw [perform_state]
      rfl
    rw [after_cons, ih, hstep, trace_cons, List.filterMap_cons]
    cases (m.performed op).addition.start with
    | none => rfl
    | some f =>
      rw [List.getLast?_cons]
      cases (((m.perform op).state.trace ops).filterMap (·.addition.start)).getLast? <;> rfl

end Module

end WasmBuilder
