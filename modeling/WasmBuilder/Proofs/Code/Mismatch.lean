import WasmBuilder.Proofs.Code

/-!
# What a code rejects

Immediates that do not fit can be too few, too many or of the wrong kind, and more than one of these
at once. All of it is one notion: two lists of kinds differ at a place, where a list that has ended
has nothing. The check walks along both lists, so what it finds is the first such place, and what it
reports are the kinds that stand there.
-/

namespace WasmBuilder

namespace Code

/-- Two lists differ at a place, and at none before it. -/
structure DiffersFirstAt {α : Type} (xs ys : List α) (place : Nat) : Prop where
  agree : ∀ q < place, xs[q]? = ys[q]?
  differ : xs[place]? ≠ ys[place]?

namespace DiffersFirstAt

variable {α : Type} {xs ys : List α}

/-- At the first place the lists differ in their heads. -/
theorem zero (h : xs[0]? ≠ ys[0]?) : DiffersFirstAt xs ys 0 where
  agree q hq := absurd hq (Nat.not_lt_zero q)
  differ := h

/-- An element in front of both lists moves the place by one. -/
theorem succ {place : Nat} (x : α) (h : DiffersFirstAt xs ys place) :
    DiffersFirstAt (x :: xs) (x :: ys) (place + 1) where
  agree q hq := by
    cases q with
    | zero => rfl
    | succ q => exact h.agree q (Nat.lt_of_succ_lt_succ hq)
  differ := h.differ

/-- Where lists differ, one of them at least has an element. -/
theorem not_both_none {place : Nat} (h : DiffersFirstAt xs ys place) :
    ¬(xs[place]? = none ∧ ys[place]? = none) := by
  rintro ⟨hx, hy⟩
  exact h.differ (hx.trans hy.symm)

end DiffersFirstAt

/-- **A mismatch is the first difference.** It has the place, counted from where the walk started,
and what the two lists have there. -/
theorem firstMismatch_eq_some {start : Nat} {expected found : List ImmediateKind} {m : Mismatch}
    (h : firstMismatch start expected found = some m) :
    ∃ place, DiffersFirstAt expected found place ∧
      m = ⟨start + place, expected[place]?, found[place]?⟩ := by
  fun_induction firstMismatch start expected found with
  | case1 start => cases h
  | case2 start e es =>
    obtain rfl := Option.some.inj h
    exact ⟨0, .zero (by simp), rfl⟩
  | case3 start f fs =>
    obtain rfl := Option.some.inj h
    exact ⟨0, .zero (by simp), rfl⟩
  | case4 start es f fs ih =>
    obtain ⟨place, hplace, rfl⟩ := ih h
    refine ⟨place + 1, hplace.succ f, ?_⟩
    rw [Nat.add_right_comm, Nat.add_assoc]
    rfl
  | case5 start e es f fs hne =>
    obtain rfl := Option.some.inj h
    exact ⟨0, .zero (by simpa using hne), rfl⟩

/-! ## Accepted and rejected instructions -/

theorem isOk_append_iff (c : Code) (o : Operator) (imms : List Immediate) :
    (c.append o imms).result.isOk = true ↔ imms.map (·.kind) = o.kinds := by
  constructor
  · intro h
    cases hresult : (c.append o imms).result with
    | error err =>
      rw [hresult] at h
      cases h
    | ok => exact kinds_of_append hresult
  · intro hkinds
    rw [append_of_kinds c hkinds]
    rfl

theorem error_of_append {c : Code} {o : Operator} {imms : List Immediate} {err : BuildError}
    (h : (c.append o imms).result = .error err) :
    ∃ place, DiffersFirstAt o.kinds (imms.map (·.kind)) place ∧
      err = .immediateMismatch o place o.kinds[place]? (imms.map (·.kind))[place]? := by
  unfold append at h
  split at h
  · next m hm =>
    obtain ⟨place, hplace, rfl⟩ := firstMismatch_eq_some hm
    obtain rfl := Except.error.inj h
    refine ⟨place, hplace, ?_⟩
    rw [Nat.zero_add]
  · cases h

/-- **A code accepts what the table says, and reports the first difference from it.** An operator
with immediates is accepted if and only if the kinds of these are the ones in the table. The code
that is left then has the bytes of the opcode and of the immediates behind the bytes it had, and it
is marked if it was, or if the operator is one of the two that use data. Otherwise the code that is
left is the code as it was, and the error has the operator's name, the first place where the two
lists of kinds differ, and what they have there; past its end a list has nothing. -/
theorem append_follows_table (c : Code) (o : Operator) (imms : List Immediate) :
    let s := c.append o imms
    let found := imms.map (·.kind)
    (s.result.isOk = true ↔ found = o.kinds) ∧
    (s.result = .ok () →
      s.state.bytes = c.bytes ++ (Binary.toBytes o.opcode ++ imms.flatMap Binary.toBytes) ∧
      (s.state.usesData = true ↔ c.usesData = true ∨ o = .memoryInit ∨ o = .dataDrop)) ∧
    ∀ err, s.result = .error err →
      s.state = c ∧
      ∃ place,
        (∀ q < place, o.kinds[q]? = found[q]?) ∧ o.kinds[place]? ≠ found[place]? ∧
        ¬(o.kinds[place]? = none ∧ found[place]? = none) ∧
        err = .immediateMismatch o place o.kinds[place]? found[place]? ∧
        let wanted := BuildError.slotName o.kinds[place]?
        let given := BuildError.slotName found[place]?
        err.message = s!"{o.name}: immediate {place} should be {wanted}, got {given}" := by
  intro s found
  refine ⟨isOk_append_iff c o imms, ?_, ?_⟩
  · intro hok
    have hs : s = ⟨c.emit o imms, .ok (), []⟩ := append_of_kinds c (kinds_of_append hok)
    rw [hs, emit_eq]
    refine ⟨rfl, ?_⟩
    simp only [Operator.usesData, Bool.or_eq_true, beq_iff_eq]
  · intro err herr
    obtain ⟨place, hplace, rfl⟩ := error_of_append herr
    exact ⟨state_append_of_error herr, place, hplace.agree, hplace.differ, hplace.not_both_none, rfl,
      rfl⟩

/-- The immediates of an indirect call, and one more. -/
def surplusTable : List Immediate := [⟨.type, ⟨1⟩⟩, ⟨.table, ⟨0⟩⟩, ⟨.table, ⟨0⟩⟩]

theorem append_follows_table_surplusTable :
    let c : Code := ⟨[0x01], false⟩
    let drop : List Immediate := [⟨.data, ⟨5⟩⟩]
    (c.append .callIndirect surplusTable).result
        = .error (.immediateMismatch .callIndirect 2 none (some .table)) ∧
      (c.append .callIndirect surplusTable).state = c ∧
      (∀ q < 2, Operator.callIndirect.kinds[q]? = (surplusTable.map (·.kind))[q]?) ∧
      (c.append .dataDrop drop).result = .ok () ∧
      (c.append .dataDrop drop).state.bytes = [0x01, 0xfc, 0x09, 0x05] ∧
      (c.append .dataDrop drop).state.usesData = true := by
  intro c drop
  have herror : (c.append .callIndirect surplusTable).result
      = .error (.immediateMismatch .callIndirect 2 none (some .table)) := rfl
  have hok : (c.append .dataDrop drop).result = .ok () := rfl
  obtain ⟨-, -, hrejected⟩ := append_follows_table c .callIndirect surplusTable
  obtain ⟨-, haccepted, -⟩ := append_follows_table c .dataDrop drop
  obtain ⟨hstay, place, hagree, -, -, herr, -⟩ := hrejected _ herror
  obtain ⟨-, rfl, -, -⟩ := BuildError.immediateMismatch.inj herr
  obtain ⟨hbytes, hmark⟩ := haccepted hok
  have hwritten : c.bytes ++ (Binary.toBytes Operator.dataDrop.opcode ++ drop.flatMap Binary.toBytes)
      = [0x01, 0xfc, 0x09, 0x05] := by decide +kernel
  exact ⟨herror, hstay, hagree, hok, hbytes.trans hwritten, hmark.mpr (Or.inr (Or.inr rfl))⟩

end Code

end WasmBuilder
