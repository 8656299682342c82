import WasmBuilder.Proofs.Code

/-!
# What operations put into a code

An operation either puts an operator with its immediates into a code, or it writes raw bytes, or it
fails. `Code.emitted` lists the operators that the operations of a construction put in. The mark for
data segments depends on them alone: raw writes do not set it, whatever bytes they write, and an
operation that fails leaves the code as it is.
-/

namespace WasmBuilder

namespace Code

/-- The operator that an operation asks for; a raw write asks for none. -/
def Operation.operator? : Operation → Option Operator
  | .named name _ => Operator.ofName? name
  | .checked o _ => some o
  | .typed i => some i.operator
  | .raw _ => none

/-- The operator that an operation puts into a code, as a list of at most one: an operation that
fails puts in none. -/
def emits (c : Code) (op : Operation) : List Operator :=
  if (c.perform op).result.isOk then op.operator?.toList else []

/-- The operators that operations put into a code, in order. -/
def emitted (c : Code) : List Operation → List Operator
  | [] => []
  | op :: ops => c.emits op ++ (c.perform op).state.emitted ops

/-- **An operation that fails leaves the code as it is.** -/
theorem state_perform_of_error {c : Code} {op : Operation} {err : BuildError}
    (h : (c.perform op).result = .error err) : (c.perform op).state = c := by
  cases op with
  | named name imms =>
    cases hname : Operator.ofName? name with
    | none => rw [perform_named_of_none c imms hname]
    | some o =>
      rw [perform_named_of_some c imms hname] at h ⊢
      exact state_append_of_error h
  | checked o imms => exact state_append_of_error h
  | typed i => cases h
  | raw w => cases h

theorem usesData_append_of_ok {c : Code} {o : Operator} {imms : List Immediate}
    (h : (c.append o imms).result = .ok ()) :
    (c.append o imms).state.usesData = (c.usesData || o.usesData) := by
  rw [append_of_kinds c (kinds_of_append h), emit_eq]

/-- An operation that succeeds marks the code if its operator uses data. Raw writes have none. -/
theorem usesData_perform_of_ok {c : Code} {op : Operation} (h : (c.perform op).result = .ok ()) :
    (c.perform op).state.usesData = (c.usesData || op.operator?.any Operator.usesData) := by
  cases op with
  | named name imms =>
    cases hname : Operator.ofName? name with
    | none =>
      rw [perform_named_of_none c imms hname] at h
      cases h
    | some o =>
      rw [perform_named_of_some c imms hname] at h ⊢
      rw [Operation.operator?, hname, usesData_append_of_ok h]
      rfl
  | checked o imms => exact usesData_append_of_ok h
  | typed i =>
    show (c.push i).usesData = (c.usesData || i.operator.usesData)
    rw [push_eq]
  | raw w =>
    show (Sink.write c w).usesData = (c.usesData || false)
    rw [LawfulSink.write_eq_bytes, Bool.or_false]
    rfl

/-- One operation marks a code if it puts in an operator that uses data. -/
theorem usesData_perform (c : Code) (op : Operation) :
    (c.perform op).state.usesData = (c.usesData || (c.emits op).any Operator.usesData) := by
  unfold emits
  cases hresult : (c.perform op).result with
  | error err =>
    rw [state_perform_of_error hresult]
    exact (Bool.or_false _).symm
  | ok =>
    rw [usesData_perform_of_ok hresult]
    cases op.operator? with
    | none => rfl
    | some o => exact congrArg (c.usesData || ·) (Bool.or_false _).symm

/-- **A code is marked if and only if an operator that uses data was put in.** -/
theorem usesData_after (c : Code) (ops : List Operation) :
    (c.after ops).usesData = (c.usesData || (c.emitted ops).any Operator.usesData) := by
  induction ops generalizing c with
  | nil => exact (Bool.or_false _).symm
  | cons op ops ih =>
    show ((c.perform op).state.after ops).usesData = _
    rw [ih, usesData_perform, emitted, List.any_append, Bool.or_assoc]

end Code

end WasmBuilder
