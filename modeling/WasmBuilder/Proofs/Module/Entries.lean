import WasmBuilder.Proofs.Module.Bodies

/-!
# Entries outside of the index spaces

Types, exports, element segments, data segments and bodies are numbered each in their own section,
whatever comes before them elsewhere. The index of an entry is all that tells it from others: names
may repeat, and entries may be equal.

1. `Module.handedOut` lists the indices of one kind that a run gave out, each with the entry that it
   was given out for. Bodies are the odd ones. A function that is defined gets an index that counts
   the imported functions as well, and the position of its body is what is left without them.
2. An operation hands out the next index for what it adds (`Module.handsOut_perform`), so that along
   a run the indices are the positions of the entries (`Module.handedOut_run`).
-/

namespace WasmBuilder

/-! ## Kinds of entries -/

/-- The kinds of entries that are numbered in a section of their own. -/
inductive EntryKind where
  | type
  | exported
  | element
  | data
  | body
deriving DecidableEq

/-- The entries of a kind. -/
abbrev EntryKind.Entry : EntryKind → Type
  | type => FuncType
  | exported => Export
  | element => ElementSegment
  | data => DataSegment
  | body => FunctionBody

/-- The entries of a kind that a module has. -/
def Module.entriesIn (m : Module) : (k : EntryKind) → List k.Entry
  | .type => m.types
  | .exported => m.exports
  | .element => m.elements
  | .data => m.data
  | .body => m.bodies

/-- The entries of a kind that are added. -/
def Addition.entriesIn (a : Addition) : (k : EntryKind) → List k.Entry
  | .type => a.types
  | .exported => a.exports
  | .element => a.elements
  | .data => a.data
  | .body => a.bodies

/-! ## Indices that are handed out -/

/-- The index that an entry has in its own section, if the operation that added it gave back `i` and
left the module `m`. -/
def Operation.ownIndex (op : Operation) (m : Module) (i : UInt32) : UInt32 :=
  match op with
  | .defineFunction _ _ => i - m.imports.count .func
  | _ => i

/-- The entries of a kind that an operation gave an index, each with its index: at most one. -/
def Operation.handsOut (op : Operation) (k : EntryKind)
    (s : Step Module (Except BuildError Outcome)) : List (UInt32 × k.Entry) :=
  match s.result with
  | .ok (.index i) => (op.addition.entriesIn k).map fun e => (op.ownIndex s.state i, e)
  | _ => []

namespace Module

/-- The indices of a kind that a run handed out, in order, each with the entry that it is for. -/
def handedOut (m : Module) (k : EntryKind) (ops : List Operation) : List (UInt32 × k.Entry) :=
  (ops.zip (m.run ops)).flatMap fun p => p.1.handsOut k p.2

/-! ## One step, and a run -/

theorem entriesIn_after (m : Module) (k : EntryKind) (ops : List Operation) :
    (m.after ops).entriesIn k
      = m.entriesIn k ++ (m.trace ops).flatMap (·.addition.entriesIn k) :=
  entries_after (·.entriesIn k) (·.entriesIn k) (fun _ _ => by cases k <;> rfl) m ops

/-- A function that is defined, taken without the imports, has the position of its body. -/
theorem ownIndex_defineFunction {m : Module} (haligned : m.functions.length = m.bodies.length)
    (type : TypeIdx) (body : FunctionBody) :
    (Operation.defineFunction type body).ownIndex (m.perform (.defineFunction type body)).state
      (m.imports.count .func + nextIndex m.functions) = nextIndex m.bodies := by
  obtain ⟨-, hstate⟩ := perform_defineFunction_of_ok m type body (check_of_length_eq haligned)
  have hcount : (m.perform (.defineFunction type body)).state.imports.count .func
      = m.imports.count .func := by
    rw [hstate]
    rfl
  rw [Operation.ownIndex, hcount, nextFunction_sub_count]
  exact congrArg UInt32.ofNat haligned

theorem handsOut_defineFunction (m : Module) (type : TypeIdx) (body : FunctionBody) :
    (Operation.defineFunction type body).handsOut .body (m.perform (.defineFunction type body))
      = (m.performed (.defineFunction type body)).addition.bodies.map
          fun e => (nextIndex m.bodies, e) := by
  by_cases haligned : m.functions.length = m.bodies.length
  · obtain ⟨hresult, -⟩ := perform_defineFunction_of_ok m type body (check_of_length_eq haligned)
    have hsucceeded : (m.performed (.defineFunction type body)).succeeded = true := by
      rw [Performed.succeeded, performed, hresult]
      rfl
    rw [addition_performed hsucceeded, ← ownIndex_defineFunction haligned type body,
      Operation.handsOut, hresult]
    rfl
  · rw [performed, perform_defineFunction_of_error m type body (check_of_length_ne haligned)]
    rfl

/-- **An operation hands out the next index of a kind for the entry that it adds.** -/
theorem handsOut_perform (m : Module) (op : Operation) (k : EntryKind) :
    op.handsOut k (m.perform op)
      = ((m.performed op).addition.entriesIn k).map fun e => (nextIndex (m.entriesIn k), e) := by
  -- without an entry to add there is nothing on either side, whether or not the operation fails
  have hnone (h : op.addition.entriesIn k = []) : op.handsOut k (m.perform op)
      = ((m.performed op).addition.entriesIn k).map fun e => (nextIndex (m.entriesIn k), e) := by
    have hadded : (m.performed op).addition.entriesIn k = [] := by
      unfold Performed.addition
      split
      · exact h
      · cases k <;> rfl
    rw [hadded, Operation.handsOut, h]
    split <;> rfl
  cases op with
  | declareType | addExport | addElement | addData | addBody => cases k <;> rfl
  | defineFunction type body =>
    cases k with
    | body => exact handsOut_defineFunction m type body
    | _ => exact hnone rfl
  | _ => exact hnone (by cases k <;> rfl)

/-- An operation adds one entry of a kind at most. -/
theorem length_entriesIn_addition_le (m : Module) (op : Operation) (k : EntryKind) :
    ((m.performed op).addition.entriesIn k).length ≤ 1 := by
  unfold Performed.addition
  split
  · show (op.addition.entriesIn k).length ≤ 1
    cases op <;> cases k <;> exact Nat.le_of_ble_eq_true rfl
  · cases k <;> exact Nat.le_of_ble_eq_true rfl

/-- **Along a run, the indices of a kind are the positions at which entries are added.** -/
theorem handedOut_run (m : Module) (k : EntryKind) (ops : List Operation) :
    (m.after ops).entriesIn k = m.entriesIn k ++ (m.handedOut k ops).map Prod.snd ∧
      CountsFrom (m.entriesIn k).length (m.handedOut k ops) := by
  refine (given_run (fun _ => True) (·.entriesIn k) (·.handsOut k) (fun {m} _ op => ?_) trivial
    ops).2
  have hlength := length_entriesIn_addition_le m op k
  rw [handsOut_perform]
  refine ⟨trivial, ?_, countsFrom_of_length_le_one (by rwa [List.length_map]) ?_⟩
  · have hstep := entriesIn_after m k [op]
    rw [after_cons, after_nil, trace_cons, trace_nil, List.flatMap_singleton] at hstep
    rw [hstep, List.map_map]
    exact congrArg _ (List.map_id _).symm
  · intro p hp
    obtain ⟨e, -, rfl⟩ := List.mem_map.mp hp
    rfl

/-- Setting the start function is recorded as it was asked for, since it cannot fail. -/
theorem filterMap_start_trace (m : Module) (ops : List Operation) :
    (m.trace ops).filterMap (·.addition.start) = ops.filterMap (·.addition.start) := by
  have hstep (m : Module) (op : Operation) :
      (m.performed op).addition.start = op.addition.start := by
    unfold Performed.addition
    split
    · rfl
    · next hfails =>
      rw [succeeded_performed, Bool.not_eq_true', Bool.not_eq_false] at hfails
      cases op with
      | setStart f => cases hfails
      | _ => rfl
  induction ops generalizing m with
  | nil => rfl
  | cons op ops ih => rw [trace_cons, List.filterMap_cons, List.filterMap_cons, hstep, ih]

/-! ## Runs of an empty module -/

theorem entriesIn_empty (k : EntryKind) : empty.entriesIn k = [] := by
  cases k <;> rfl

theorem map_snd_handedOut_empty (k : EntryKind) (ops : List Operation) :
    (empty.handedOut k ops).map Prod.snd = (empty.after ops).entriesIn k := by
  rw [(handedOut_run empty k ops).1, entriesIn_empty, List.nil_append]

theorem countsFrom_handedOut_empty (k : EntryKind) (ops : List Operation) :
    CountsFrom 0 (empty.handedOut k ops) := by
  have hcounts := (handedOut_run empty k ops).2
  rwa [entriesIn_empty] at hcounts

theorem length_handedOut_lt {k : EntryKind} {ops : List Operation}
    (h : ((empty.after ops).entriesIn k).length < UInt32.size) :
    (empty.handedOut k ops).length < UInt32.size := by
  rwa [← map_snd_handedOut_empty, List.length_map] at h

/-- However a run goes on, an index that was handed out is the position of its entry. -/
theorem getElem?_of_mem_handedOut {k : EntryKind} {ops : List Operation}
    (h : ((empty.after ops).entriesIn k).length < UInt32.size) (later : List Operation)
    {p : UInt32 × k.Entry} (hp : p ∈ empty.handedOut k ops) :
    ((empty.after (ops ++ later)).entriesIn k)[p.1.toNat]? = some p.2 := by
  have hposition := ((countsFrom_handedOut_empty k ops).mem_iff (length_handedOut_lt h)).mp hp
  rw [map_snd_handedOut_empty] at hposition
  obtain ⟨hlt, -⟩ := List.getElem?_eq_some_iff.mp hposition
  rw [after_append, entriesIn_after, List.getElem?_append_left hlt, hposition]

/-- Positions whose index was not handed out are empty. -/
theorem getElem?_eq_none_iff_handedOut {k : EntryKind} {ops : List Operation}
    (h : ((empty.after ops).entriesIn k).length < UInt32.size) (i : UInt32) :
    ((empty.after ops).entriesIn k)[i.toNat]? = none
      ↔ i ∉ (empty.handedOut k ops).map Prod.fst := by
  have hnone := (countsFrom_handedOut_empty k ops).getElem?_eq_none_iff (length_handedOut_lt h)
    (i := i)
  rwa [map_snd_handedOut_empty] at hnone

/-- **Entries are added at the end of their section and stay there under the index that was handed
out for them.** The hypothesis is that no section outgrows its indices; `later` is how the run goes
on. Every operation that adds an entry hands out an index for it, and the indices of a kind are
0, 1, 2, … in the order of these operations. At every later point the entry is found under its
index, also by the look-ups of types and exports, and these find nothing under an index that has not
been handed out. The start function is the last one that was set. -/
theorem entries_keep_their_indices (ops : List Operation)
    (h : ∀ k, ((empty.after ops).entriesIn k).length < UInt32.size) :
    (∀ k,
      (empty.handedOut k ops).map Prod.snd = (empty.trace ops).flatMap (·.addition.entriesIn k) ∧
      (empty.handedOut k ops).map (·.1.toNat) = List.range (empty.handedOut k ops).length ∧
      ∀ later, ∀ p ∈ empty.handedOut k ops,
        ((empty.after (ops ++ later)).entriesIn k)[p.1.toNat]? = some p.2) ∧
    (∀ later, ∀ p ∈ empty.handedOut .type ops,
      (empty.after (ops ++ later)).funcType? ⟨p.1⟩ = some p.2) ∧
    (∀ i, (empty.after ops).funcType? i = none ↔
      i.val ∉ (empty.handedOut .type ops).map Prod.fst) ∧
    (∀ later, ∀ p ∈ empty.handedOut .exported ops,
      (empty.after (ops ++ later)).export? ⟨p.1⟩ = some p.2) ∧
    (∀ i, (empty.after ops).export? i = none ↔
      i.val ∉ (empty.handedOut .exported ops).map Prod.fst) ∧
    (empty.after ops).start = (ops.filterMap (·.addition.start)).getLast? := by
  refine ⟨fun k => ⟨?_, ?_, ?_⟩, ?_, ?_, ?_, ?_, ?_⟩
  · rw [map_snd_handedOut_empty, entriesIn_after, entriesIn_empty, List.nil_append]
  · exact (countsFrom_handedOut_empty k ops).map_toNat (length_handedOut_lt (h k))
  · exact fun later p hp => getElem?_of_mem_handedOut (h k) later hp
  · exact fun later p hp => getElem?_of_mem_handedOut (h .type) later hp
  · exact fun i => getElem?_eq_none_iff_handedOut (h .type) i.val
  · exact fun later p hp => getElem?_of_mem_handedOut (h .exported) later hp
  · exact fun i => getElem?_eq_none_iff_handedOut (h .exported) i.val
  · rw [start_after, filterMap_start_trace, show empty.start = none from rfl, Option.or_none]

/-- A run with equal types and equal names, with a function that cannot be defined for want of
another and is defined later, past an import, and with a start function that is replaced. -/
def crowdedRun : List Operation := [
  .addImport ⟨"env", "f", .func ⟨0⟩⟩,
  .declareType [.i32] [],
  .addBody ⟨[], Code.empty⟩,
  .defineFunction ⟨0⟩ ⟨[⟨1, .i32⟩], Code.empty⟩,
  .declareFunction ⟨0⟩,
  .setStart ⟨1⟩,
  .defineFunction ⟨0⟩ ⟨[⟨2, .i32⟩], Code.empty⟩,
  .addExport ⟨"f", .func, 1⟩,
  .addData ⟨.passive, [0x01]⟩,
  .declareType [.i32] [],
  .addExport ⟨"f", .mem, 0⟩,
  .addData ⟨.active ⟨0⟩ Code.empty, [0x02]⟩,
  .setStart ⟨2⟩]

theorem entries_keep_their_indices_crowdedRun :
    (∀ k, ((empty.after crowdedRun).entriesIn k).length < UInt32.size) ∧
      (empty.handedOut .body crowdedRun).map (·.1.toNat) = [0, 1] ∧
      (1, ⟨[⟨2, .i32⟩], Code.empty⟩) ∈ empty.handedOut .body crowdedRun ∧
      (empty.handedOut .data crowdedRun).map (·.1.toNat) = [0, 1] ∧
      (1, ⟨"f", .mem, 0⟩) ∈ empty.handedOut .exported crowdedRun ∧
      (empty.after (crowdedRun ++ [.addExport ⟨"g", .func, 2⟩])).export? ⟨1⟩
        = some ⟨"f", .mem, 0⟩ ∧
      (empty.after crowdedRun).funcType? ⟨2⟩ = none ∧
      (empty.after crowdedRun).start = some ⟨2⟩ := by
  have h : ∀ k, ((empty.after crowdedRun).entriesIn k).length < UInt32.size := by
    intro k
    cases k <;> decide
  obtain ⟨hkinds, -, htype, hexport, -, hstart⟩ := entries_keep_their_indices crowdedRun h
  have hbody : (1, ⟨[⟨2, .i32⟩], Code.empty⟩) ∈ empty.handedOut .body crowdedRun := by decide
  have hmem : (1, ⟨"f", .mem, 0⟩) ∈ empty.handedOut .exported crowdedRun := by decide
  exact ⟨h, (hkinds .body).2.1, hbody, (hkinds .data).2.1, hmem, hexport _ _ hmem,
    (htype ⟨2⟩).mpr (by decide), hstart⟩

end Module

end WasmBuilder
