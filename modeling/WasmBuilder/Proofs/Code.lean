import WasmBuilder.Code
import WasmBuilder.Proofs.Sink

/-!
# What a code accepts

A code takes an operator and immediates exactly when the immediates have the kinds that the table
asks for. Such a pair is the same as an `Instruction`, so a list of accepted pairs is a list of
instructions.

What is accepted is written to the code as to any other sink. A code is a lawful sink, so it then
holds the bytes of the instructions one after the other.
-/

namespace WasmBuilder

/-! ## Kinds and operands -/

/-- Two lists of kinds without a first difference are equal. -/
theorem Code.firstMismatch_eq_none_iff : ∀ (position : Nat) (expected found : List ImmediateKind),
    firstMismatch position expected found = none ↔ expected = found
  | _, [], [] => by simp [firstMismatch]
  | _, e :: es, [] => by simp [firstMismatch]
  | _, [], f :: fs => by simp [firstMismatch]
  | position, e :: es, f :: fs => by
    rw [firstMismatch]
    split
    · next h => rw [firstMismatch_eq_none_iff (position + 1) es fs, h, List.cons_inj_right]
    · next h => simp [h]

/-- Immediates of the right kinds are operands. -/
theorem Operands.exists_toImmediates : ∀ (ks : List ImmediateKind) (imms : List Immediate),
    imms.map (·.kind) = ks → ∃ vs : Operands ks, toImmediates ks vs = imms
  | [], [], _ => ⟨(), rfl⟩
  | k :: ks, ⟨l, v⟩ :: imms, h => by
    obtain ⟨rfl, hks⟩ := List.cons.inj h
    obtain ⟨vs, hvs⟩ := exists_toImmediates ks imms hks
    exact ⟨(v, vs), by rw [toImmediates, hvs]⟩

namespace Instruction

/-- The operator and the immediates of an instruction. -/
def parts (i : Instruction) : Operator × List Immediate := (i.operator, i.immediates)

/-- The bytes that an instruction adds to a code. -/
def toBytes (i : Instruction) : Bytes :=
  Binary.toBytes i.operator.opcode ++ i.immediates.flatMap Binary.toBytes

/-- Instructions are the operators with immediates of the kinds in the table. -/
theorem exists_parts_iff {o : Operator} {imms : List Immediate} :
    (∃ i : Instruction, i.parts = (o, imms)) ↔ imms.map (·.kind) = o.kinds := by
  constructor
  · rintro ⟨i, hparts⟩
    obtain ⟨rfl, rfl⟩ := Prod.mk.inj hparts
    exact Operands.map_kind_toImmediates i.operator.kinds i.operands
  · intro hkinds
    obtain ⟨vs, hvs⟩ := Operands.exists_toImmediates o.kinds imms hkinds
    exact ⟨⟨o, vs⟩, Prod.ext rfl hvs⟩

end Instruction

namespace Code

/-! ## Writing to a code -/

/-- Bytes taken one by one end up at the end of the code, and the mark for data stays. -/
theorem foldl_byte (bs : Bytes) (c : Code) :
    bs.foldl (fun c b => Sink.byte b c) c = ⟨c.bytes ++ bs, c.usesData⟩ := by
  induction bs generalizing c with
  | nil => rw [List.foldl_nil, List.append_nil]
  | cons b bs ih =>
    rw [List.foldl_cons, ih]
    show Code.mk (c.bytes ++ [b] ++ bs) c.usesData = _
    rw [List.append_assoc, List.singleton_append]

instance : LawfulSink Code where
  bytes_eq_foldl bs c := (foldl_byte bs c).symm
  unsigned_eq_foldl _ _ := rfl

/-- Writes end up at the end of the code as the bytes that they stand for. -/
theorem writeAll_eq (ws : List Write) (c : Code) :
    Sink.writeAll ws c = ⟨c.bytes ++ Write.toBytesAll ws, c.usesData⟩ :=
  LawfulSink.writeAll_eq_bytes ws c

/-- Immediates written one by one leave their bytes one after the other. -/
theorem foldl_writeAll (imms : List Immediate) (c : Code) :
    imms.foldl (fun c i => Sink.writeAll (Binary.writes i) c) c
      = ⟨c.bytes ++ imms.flatMap Binary.toBytes, c.usesData⟩ := by
  induction imms generalizing c with
  | nil => rw [List.foldl_nil, List.flatMap_nil, List.append_nil]
  | cons i imms ih =>
    rw [List.foldl_cons, ih, writeAll_eq, List.flatMap_cons, List.append_assoc]
    rfl

theorem mark_eq (c : Code) (o : Operator) :
    c.mark o = ⟨c.bytes, c.usesData || o.usesData⟩ := by
  unfold mark
  cases o.usesData with
  | false => rw [Bool.or_false]; rfl
  | true => rw [Bool.or_true]; rfl

/-- **Emitting leaves the bytes of the opcode and of the immediates, and marks the code if the
operator uses data.** -/
theorem emit_eq (c : Code) (o : Operator) (imms : List Immediate) :
    c.emit o imms = ⟨c.bytes ++ (Binary.toBytes o.opcode ++ imms.flatMap Binary.toBytes),
      c.usesData || o.usesData⟩ := by
  rw [emit, mark_eq, writeAll_eq, foldl_writeAll, List.append_assoc]
  rfl

theorem push_eq (c : Code) (i : Instruction) :
    c.push i = ⟨c.bytes ++ i.toBytes, c.usesData || i.operator.usesData⟩ :=
  emit_eq c i.operator i.immediates

@[simp] theorem bytes_push (c : Code) (i : Instruction) :
    (c.push i).bytes = c.bytes ++ i.toBytes := by rw [push_eq]

/-! ## Checked instructions -/

/-- Immediates of the kinds in the table are put in. -/
theorem append_of_kinds {o : Operator} {imms : List Immediate} (c : Code)
    (h : imms.map (·.kind) = o.kinds) : c.append o imms = ⟨c.emit o imms, .ok (), []⟩ := by
  rw [append, (firstMismatch_eq_none_iff 0 o.kinds (imms.map (·.kind))).mpr h.symm]

/-- The parts of an instruction are put in. -/
theorem append_parts (c : Code) (i : Instruction) :
    c.append i.operator i.immediates = ⟨c.push i, .ok (), []⟩ :=
  append_of_kinds c (Instruction.exists_parts_iff.mp ⟨i, rfl⟩)

/-- Immediates that are put in have the kinds in the table. -/
theorem kinds_of_append {c : Code} {o : Operator} {imms : List Immediate}
    (h : (c.append o imms).result = .ok ()) : imms.map (·.kind) = o.kinds := by
  unfold append at h
  split at h
  · cases h
  · next hnone => exact ((firstMismatch_eq_none_iff 0 _ _).mp hnone).symm

/-- **What is rejected leaves the code as it is.** -/
theorem state_append_of_error {c : Code} {o : Operator} {imms : List Immediate} {err : BuildError}
    (h : (c.append o imms).result = .error err) : (c.append o imms).state = c := by
  unfold append at h ⊢
  split at h
  · rfl
  · cases h

/-- A name that is found leads to the same check as its operator. -/
theorem perform_named_of_some {name : String} {o : Operator} (c : Code) (imms : List Immediate)
    (h : Operator.ofName? name = some o) : c.perform (.named name imms) = c.append o imms := by
  rw [perform, appendNamed, h, Option.elim_some]

theorem perform_named_of_none {name : String} (c : Code) (imms : List Immediate)
    (h : Operator.ofName? name = none) :
    c.perform (.named name imms) = ⟨c, .error (.unknownInstruction name), []⟩ := by
  rw [perform, appendNamed, h, Option.elim_none]

/-! ## Lists of checked instructions -/

/-- Adds operators with immediates in turn, up to the first that is rejected. -/
def appendAll (c : Code) (ps : List (Operator × List Immediate)) :
    Step Code (Except BuildError Unit) :=
  c.performAll (ps.map fun p => .checked p.1 p.2)

/-- After an operation that succeeded the next ones are carried out. -/
theorem performAll_cons_of_ok {c d : Code} {op : Operation} (ops : List Operation)
    (h : c.perform op = ⟨d, .ok (), []⟩) : c.performAll (op :: ops) = d.performAll ops := by
  rw [performAll, h]
  rfl

/-- After an operation that failed none is carried out. -/
theorem result_performAll_cons_of_error {c : Code} {op : Operation} {err : BuildError}
    (ops : List Operation) (h : (c.perform op).result = .error err) :
    (c.performAll (op :: ops)).result = .error err := by
  rw [performAll, Step.andThen, h]

/-- Accepted pairs are instructions, whose bytes stand one after the other. -/
theorem exists_of_appendAll : ∀ (ps : List (Operator × List Immediate)) (c : Code),
    (c.appendAll ps).result = .ok () →
      ∃ is : List Instruction, is.map Instruction.parts = ps ∧
        (c.appendAll ps).state.bytes = c.bytes ++ is.flatMap Instruction.toBytes
  | [], c, _ => ⟨[], rfl, by rw [List.flatMap_nil, List.append_nil]; rfl⟩
  | (o, imms) :: ps, c, h => by
    cases hresult : (c.perform (.checked o imms)).result with
    | error err =>
      rw [appendAll, List.map_cons, result_performAll_cons_of_error _ hresult] at h
      cases h
    | ok =>
      obtain ⟨i, hi⟩ := Instruction.exists_parts_iff.mpr (kinds_of_append hresult)
      obtain ⟨rfl, rfl⟩ := Prod.mk.inj hi
      have hrest : c.appendAll (i.parts :: ps) = (c.push i).appendAll ps :=
        performAll_cons_of_ok _ (append_parts c i)
      obtain ⟨is, his, hbytes⟩ := exists_of_appendAll ps (c.push i) (hrest ▸ h)
      refine ⟨i :: is, by rw [List.map_cons, his]; rfl, ?_⟩
      show (c.appendAll (i.parts :: ps)).state.bytes = _
      rw [hrest, hbytes, bytes_push, List.flatMap_cons, List.append_assoc]

end Code

end WasmBuilder
