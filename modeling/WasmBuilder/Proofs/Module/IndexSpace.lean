import WasmBuilder.Proofs.Module.Numbering

/-!
# Index spaces

Functions, tables, memories and globals are numbered from zero, imports first, and an index that
was given out keeps its meaning. A module holds the numbering in pieces: a counter for the imports
of each space, one list of all imports, a list of local definitions for each space and the mark
that no import may be added.

1. `Module.space` is the numbering as a single list: the imports of a space, then its local
   definitions.
2. `Module.Numbered` is what ties the pieces together. The counters are right, and there are no
   local definitions before the imports are frozen.
3. An operation that succeeds in a space adds to the end of that list and gives out its length
   (`Module.Numbered.perform`). Along a run the lists only grow (`Module.Numbered.after`), so
   indices are positions for good.
-/

namespace WasmBuilder

/-- What an index of an index space stands for. -/
inductive Entity where
  | imported (i : Import)
  | func (type : TypeIdx)
  | table (type : TableType)
  | mem (type : MemType)
  | global (g : Global)
deriving DecidableEq

/-- Whether the entity comes from outside. -/
def Entity.isImported : Entity → Bool
  | imported _ => true
  | _ => false

namespace Module

/-- The imports of a space, in the order in which they were added. -/
def importsIn (m : Module) (s : IndexSpace) : List Import :=
  m.imports.entries.filter (·.desc.space = s)

/-- The local definitions of a space. -/
def localsIn (m : Module) : IndexSpace → List Entity
  | .func => m.functions.map .func
  | .table => m.tables.map .table
  | .mem => m.memories.map .mem
  | .global => m.globals.map .global

/-- The entities of a space: its imports, then its local definitions. -/
def space (m : Module) (s : IndexSpace) : List Entity :=
  (m.importsIn s).map .imported ++ m.localsIn s

/-- What an index stands for: an import of the space if it is less than the number of these, and
otherwise the local definition that is as far above that number. -/
def entity? (m : Module) (s : IndexSpace) (i : UInt32) : Option Entity :=
  if i < m.imports.count s then (m.importsIn s)[i.toNat]?.map .imported
  else (m.localsIn s)[i.toNat - (m.imports.count s).toNat]?

end Module

/-! ## Indices that are given out -/

/-- The entities of a space that an operation asks an index for: at most one. -/
def Operation.entitiesIn : Operation → IndexSpace → List Entity
  | .addImport i, s => if i.desc.space = s then [.imported i] else []
  | .declareFunction type, .func => [.func type]
  | .defineFunction type _, .func => [.func type]
  | .declareTable type, .table => [.table type]
  | .declareMemory type, .mem => [.mem type]
  | .declareGlobal type init, .global => [.global ⟨type, init⟩]
  | _, _ => []

/-- The entities of a space that an operation with the given result got an index for, each with
its index. -/
def Operation.issuedBy (op : Operation) (s : IndexSpace) :
    Except BuildError Outcome → List (UInt32 × Entity)
  | .ok (.index i) => (op.entitiesIn s).map fun e => (i, e)
  | _ => []

/-- The indices of a space that are given out along a run, in order, each with what it is for. -/
def Module.issued (m : Module) (s : IndexSpace) (ops : List Operation) : List (UInt32 × Entity) :=
  (ops.zip (m.run ops)).flatMap fun p => p.1.issuedBy s p.2.result

/-! ## Numbers of imports -/

/-- A bump counts in its own space only. -/
theorem SpaceCounts.get_bump (c : SpaceCounts) (s t : IndexSpace) :
    (c.bump s).get t = if s = t then c.get t + 1 else c.get t := by
  cases s <;> cases t <;> rfl

/-- Bumping for each import counts the imports of each space. -/
theorem SpaceCounts.get_bumpAll (s : IndexSpace) : ∀ (c : SpaceCounts) (imports : List Import),
    (c.bumpAll imports).get s
      = c.get s + UInt32.ofNat (imports.filter (·.desc.space = s)).length
  | c, [] => by simp [bumpAll]
  | c, i :: imports => by
    show ((c.bump i.desc.space).bumpAll imports).get s = _
    rw [get_bumpAll s _ imports, get_bump, List.filter_cons]
    by_cases h : i.desc.space = s
    · simp only [h, decide_true, if_true, List.length_cons, UInt32.ofNat_add]
      rw [UInt32.add_assoc, UInt32.add_comm 1]
      rfl
    · simp [h]

/-- Every import belongs to exactly one space. -/
theorem length_eq_sum_filter_space : ∀ imports : List Import,
    (imports.filter (·.desc.space = .func)).length + (imports.filter (·.desc.space = .table)).length
      + (imports.filter (·.desc.space = .mem)).length
      + (imports.filter (·.desc.space = .global)).length = imports.length
  | [] => rfl
  | i :: imports => by
    have ih := length_eq_sum_filter_space imports
    cases h : i.desc.space <;> simp [h] <;> omega

/-! ## The invariant -/

namespace Module

/-- The numbering is in order: imports come first, and the counters count them. -/
structure Numbered (m : Module) : Prop where
  /-- Nothing is defined before the imports are frozen. -/
  localsIn_eq_nil : m.imports.frozen = false → ∀ s, m.localsIn s = []
  /-- The counters count the imports. -/
  count_eq : ∀ s, m.imports.count s = UInt32.ofNat (m.importsIn s).length

theorem numbered_empty : Numbered empty where
  localsIn_eq_nil _ s := by cases s <;> rfl
  count_eq s := by cases s <;> rfl

/-- An operation that does not freeze the imports defines nothing. -/
theorem localsIn_extend_of_not_freezes (m : Module) {op : Operation}
    (h : op.addition.freezes = false) (s : IndexSpace) :
    (m.extend op.addition).localsIn s = m.localsIn s := by
  cases op <;> cases s <;> simp_all [Operation.addition, extend, localsIn]

variable {m : Module}

/-- An operation that succeeds keeps the numbering in order. -/
theorem Numbered.extend (h : m.Numbered) (op : Operation) : (m.extend op.addition).Numbered where
  localsIn_eq_nil hfrozen s := by
    obtain ⟨hm, hop⟩ := Bool.or_eq_false_iff.mp hfrozen
    rw [localsIn_extend_of_not_freezes m hop s]
    exact h.localsIn_eq_nil hm s
  count_eq s := by
    show (m.imports.counts.bumpAll op.addition.imports).get s = _
    rw [SpaceCounts.get_bumpAll]
    simp only [importsIn, Module.extend, List.filter_append, List.length_append, UInt32.ofNat_add]
    exact congrArg (· + _) (h.count_eq s)

/-- An operation that succeeds adds at the end of each space. -/
theorem Numbered.space_extend (h : m.Numbered) {op : Operation}
    (hop : op.addition.imports ≠ [] → m.imports.frozen = false) (s : IndexSpace) :
    (m.extend op.addition).space s = m.space s ++ op.entitiesIn s := by
  cases op with
  | addImport i =>
    have hlocals := h.localsIn_eq_nil (hop (by simp [Operation.addition])) s
    rw [space, localsIn_extend_of_not_freezes m rfl, space, hlocals]
    simp only [importsIn, Module.extend, Operation.addition, Operation.entitiesIn,
      List.filter_append, List.map_append, List.append_nil]
    by_cases hs : i.desc.space = s
    · simp [hs]
    · simp [hs]
  | _ =>
    cases s <;>
      simp [space, importsIn, localsIn, Module.extend, Operation.addition, Operation.entitiesIn]

/-- The first index after the local definitions is the length of the space. -/
theorem Numbered.count_add (h : m.Numbered) (s : IndexSpace) :
    m.imports.count s + UInt32.ofNat (m.localsIn s).length = UInt32.ofNat (m.space s).length := by
  rw [h.count_eq, space, List.length_append, List.length_map, UInt32.ofNat_add]

/-- An operation that succeeds gives out the length of the space. -/
theorem Numbered.perform_result (h : m.Numbered) {op : Operation} {out : Outcome}
    (hop : (m.perform op).result = .ok out) {s : IndexSpace} (hs : op.entitiesIn s ≠ []) :
    out = .index (UInt32.ofNat (m.space s).length) := by
  rw [← h.count_add s]
  unfold Operation.entitiesIn at hs
  split at hs
  next i =>
    have hi : i.desc.space = s := Decidable.byContradiction fun hi => hs (if_neg hi)
    cases hfrozen : m.imports.frozen with
    | true =>
      rw [perform_addImport_of_frozen m i hfrozen] at hop
      cases hop
    | false =>
      rw [perform_addImport_of_not_frozen m i hfrozen] at hop
      rw [h.localsIn_eq_nil hfrozen s, ← hi]
      cases hop
      simp
  next type =>
    cases hop
    simp [declareFunction, Step.andThen, freezeImports_state, localsIn, nextIndex,
      ImportTable.count]
  next type body =>
    cases hcheck : m.check with
    | error e =>
      rw [perform_defineFunction_of_error m type body hcheck] at hop
      cases hop
    | ok u =>
      rw [(perform_defineFunction_of_ok m type body hcheck).1] at hop
      cases hop
      simp [localsIn, nextIndex]
  next type =>
    cases hop
    simp [declareTable, Step.andThen, freezeImports_state, localsIn, nextIndex, ImportTable.count]
  next type =>
    cases hop
    simp [declareMemory, Step.andThen, freezeImports_state, localsIn, nextIndex, ImportTable.count]
  next type init =>
    cases hop
    simp [declareGlobal, Step.andThen, freezeImports_state, localsIn, nextIndex, ImportTable.count]
  next => exact absurd rfl hs

/-! ## One step, and a run -/

/-- **One operation keeps the numbering in order and adds at the end of each space what it gives an
index to; that index is the length of the space before.** -/
theorem Numbered.perform (h : m.Numbered) (op : Operation) (s : IndexSpace) :
    (m.perform op).state.Numbered ∧
      (m.perform op).state.space s
        = m.space s ++ (op.issuedBy s (m.perform op).result).map Prod.snd ∧
      ∀ p ∈ op.issuedBy s (m.perform op).result, p.1 = UInt32.ofNat (m.space s).length := by
  obtain ⟨out, hout, hstate, himports⟩ | ⟨e, he⟩ := perform_cases m op
  · have hissued : op.issuedBy s (.ok out)
        = (op.entitiesIn s).map fun e => (UInt32.ofNat (m.space s).length, e) := by
      cases hs : op.entitiesIn s with
      | nil => cases out <;> simp [Operation.issuedBy, hs]
      | cons e es =>
        have hne : op.entitiesIn s ≠ [] := by simp [hs]
        rw [h.perform_result hout hne, Operation.issuedBy, hs]
    rw [hstate, hout, hissued]
    refine ⟨h.extend op, ?_, ?_⟩
    · rw [h.space_extend himports, List.map_map]
      exact congrArg _ (List.map_id _).symm
    · intro p hp
      obtain ⟨e, -, rfl⟩ := List.mem_map.mp hp
      rfl
  · rw [he]
    exact ⟨h, by simp [Operation.issuedBy], by simp [Operation.issuedBy]⟩

/-- An operation gives out one index at most. -/
theorem length_issuedBy_le (op : Operation) (s : IndexSpace) (r : Except BuildError Outcome) :
    (op.issuedBy s r).length ≤ 1 := by
  have hlength : (op.entitiesIn s).length ≤ 1 := by
    unfold Operation.entitiesIn
    split
    · split <;> simp
    all_goals simp
  unfold Operation.issuedBy
  split
  · rw [List.length_map]
    exact hlength
  · exact Nat.zero_le 1

/-- **A run keeps the numbering in order and adds at the end of each space what it gives indices
to; these are the positions at which it is added.** -/
theorem Numbered.after (h : m.Numbered) (s : IndexSpace) (ops : List Operation) :
    (m.after ops).Numbered ∧
      (m.after ops).space s = m.space s ++ (m.issued s ops).map Prod.snd ∧
      CountsFrom (m.space s).length (m.issued s ops) := by
  refine given_run Numbered (·.space s) (fun op step => op.issuedBy s step.result)
    (fun h op => ?_) h ops
  obtain ⟨hnumbered, hspace, hindex⟩ := h.perform op s
  exact ⟨hnumbered, hspace,
    countsFrom_of_length_le_one (length_issuedBy_le op s _) hindex⟩

/-! ## What indices stand for -/

/-- A counter that has not wrapped is the number of imports. -/
theorem Numbered.toNat_count (h : m.Numbered) {s : IndexSpace}
    (hlength : (m.space s).length < UInt32.size) :
    (m.imports.count s).toNat = (m.importsIn s).length := by
  rw [h.count_eq]
  refine UInt32.toNat_ofNat_of_lt ?_
  rw [space, List.length_append, List.length_map] at hlength
  exact Nat.lt_of_le_of_lt (Nat.le_add_right _ _) hlength

/-- An index stands for what is at that position in its space. -/
theorem Numbered.entity?_eq (h : m.Numbered) {s : IndexSpace}
    (hlength : (m.space s).length < UInt32.size) (i : UInt32) :
    m.entity? s i = (m.space s)[i.toNat]? := by
  have hcount := h.toNat_count hlength
  rw [entity?, space]
  split
  next hlt =>
    rw [UInt32.lt_iff_toNat_lt, hcount] at hlt
    rw [List.getElem?_append_left (by simpa using hlt), List.getElem?_map]
  next hge =>
    rw [UInt32.lt_iff_toNat_lt, hcount, Nat.not_lt] at hge
    rw [List.getElem?_append_right (by simpa using hge), List.length_map, hcount]

/-- Local definitions are not imported. -/
theorem isImported_of_mem_localsIn {s : IndexSpace} {e : Entity} (he : e ∈ m.localsIn s) :
    e.isImported = false := by
  cases s <;>
    · obtain ⟨x, -, rfl⟩ := List.mem_map.mp he
      rfl

/-- Imports come before local definitions. -/
theorem pairwise_isImported_space (m : Module) (s : IndexSpace) :
    (m.space s).Pairwise fun a b => b.isImported → a.isImported := by
  rw [space, List.pairwise_append]
  refine ⟨List.pairwise_map.mpr (List.pairwise_of_forall fun _ _ _ => rfl), ?_, ?_⟩
  · refine List.pairwise_of_forall_mem_list fun a _ b hb himported => ?_
    rw [isImported_of_mem_localsIn hb] at himported
    cases himported
  · intro a ha b _ _
    obtain ⟨i, -, rfl⟩ := List.mem_map.mp ha
    rfl

/-- The imported entities of a space are its imports. -/
theorem filter_isImported_space (m : Module) (s : IndexSpace) :
    (m.space s).filter Entity.isImported = (m.importsIn s).map .imported := by
  rw [space, List.filter_append, List.filter_eq_self.mpr, List.filter_eq_nil_iff.mpr,
    List.append_nil]
  · intro e he
    rw [isImported_of_mem_localsIn he]
    exact Bool.false_ne_true
  · intro e he
    obtain ⟨i, -, rfl⟩ := List.mem_map.mp he
    rfl

/-! ## Runs of an empty module -/

theorem space_empty (s : IndexSpace) : empty.space s = [] := by
  cases s <;> rfl

/-- The numbering of an empty module stays in order. -/
theorem numbered_after_empty (ops : List Operation) : (empty.after ops).Numbered :=
  (numbered_empty.after .func ops).1

/-- What gets an index is what is in the space. -/
theorem map_snd_issued_empty (s : IndexSpace) (ops : List Operation) :
    (empty.issued s ops).map Prod.snd = (empty.after ops).space s := by
  rw [(numbered_empty.after s ops).2.1, space_empty, List.nil_append]

/-- The indices count from zero. -/
theorem countsFrom_issued_empty (s : IndexSpace) (ops : List Operation) :
    CountsFrom 0 (empty.issued s ops) := by
  have hcounts := (numbered_empty.after s ops).2.2
  rwa [space_empty] at hcounts

theorem length_issued_empty (s : IndexSpace) (ops : List Operation) :
    (empty.issued s ops).length = ((empty.after ops).space s).length := by
  rw [← map_snd_issued_empty, List.length_map]

/-- The indices are the positions, as long as these are within their range. -/
theorem map_toNat_issued_empty (s : IndexSpace) (ops : List Operation)
    (hlength : ((empty.after ops).space s).length < UInt32.size) :
    (empty.issued s ops).map (·.1.toNat) = List.range (empty.issued s ops).length := by
  rw [← length_issued_empty] at hlength
  exact (countsFrom_issued_empty s ops).map_toNat hlength

/-- What is in a space stays there, at its position. -/
theorem space_after_append (ops later : List Operation) (s : IndexSpace) :
    (empty.after (ops ++ later)).space s
      = (empty.after ops).space s ++ ((empty.after ops).issued s later).map Prod.snd := by
  rw [after_append]
  exact ((numbered_after_empty ops).after s later).2.1

/-- An index that was given out stands for what it was given out for, however the run goes on. -/
theorem entity?_of_mem_issued {s : IndexSpace} {ops later : List Operation}
    (hlength : ((empty.after (ops ++ later)).space s).length < UInt32.size) {p : UInt32 × Entity}
    (hp : p ∈ empty.issued s ops) : (empty.after (ops ++ later)).entity? s p.1 = some p.2 := by
  rw [(numbered_after_empty _).entity?_eq hlength, space_after_append]
  rw [space_after_append, List.length_append, ← length_issued_empty] at hlength
  have hposition := ((countsFrom_issued_empty s ops).mem_iff (by omega)).mp hp
  rw [map_snd_issued_empty] at hposition
  obtain ⟨hlt, -⟩ := List.getElem?_eq_some_iff.mp hposition
  rw [List.getElem?_append_left hlt, hposition]

/-- **Along every run of an empty module, each space is numbered 0, 1, 2, …, its imports first, and
the indices keep their meaning.** The hypothesis is that no space outgrows its indices; `later` are
the operations after those whose indices are looked at. -/
theorem issued_numbers_space (ops later : List Operation)
    (h : ∀ s, ((empty.after (ops ++ later)).space s).length < UInt32.size) :
    (∀ s,
      (empty.issued s ops).map (·.1.toNat) = List.range (empty.issued s ops).length ∧
      (empty.issued s ops).map Prod.snd = (empty.after ops).space s ∧
      (empty.issued s ops).Pairwise (fun p q => q.2.isImported → p.2.isImported) ∧
      ((empty.after ops).imports.count s).toNat
        = ((empty.issued s ops).filter (·.2.isImported)).length ∧
      ((empty.after ops).imports.count s).toNat
        = ((empty.after ops).imports.entries.filter (·.desc.space = s)).length ∧
      ∀ p ∈ empty.issued s ops, (empty.after (ops ++ later)).entity? s p.1 = some p.2) ∧
    ((empty.after ops).imports.count .func).toNat + ((empty.after ops).imports.count .table).toNat
        + ((empty.after ops).imports.count .mem).toNat
        + ((empty.after ops).imports.count .global).toNat
      = (empty.after ops).imports.entries.length := by
  have hlength : ∀ s, ((empty.after ops).space s).length < UInt32.size := fun s => by
    have hs := h s
    rw [space_after_append, List.length_append] at hs
    exact Nat.lt_of_le_of_lt (Nat.le_add_right _ _) hs
  have hcount : ∀ s, ((empty.after ops).imports.count s).toNat
      = ((empty.after ops).importsIn s).length := fun s =>
    (numbered_after_empty ops).toNat_count (hlength s)
  refine ⟨fun s => ⟨map_toNat_issued_empty s ops (hlength s), map_snd_issued_empty s ops, ?_, ?_,
    hcount s, fun p hp => entity?_of_mem_issued (h s) hp⟩, ?_⟩
  · have hpairwise := pairwise_isImported_space (empty.after ops) s
    rw [← map_snd_issued_empty] at hpairwise
    exact List.pairwise_map.mp hpairwise
  · have himports := congrArg List.length (filter_isImported_space (empty.after ops) s)
    rw [← map_snd_issued_empty, List.filter_map, List.length_map, List.length_map] at himports
    exact (hcount s).trans himports.symm
  · rw [hcount, hcount, hcount, hcount]
    exact length_eq_sum_filter_space _

/-- A run in which an import comes too late and a function is defined while a body is missing. -/
def interruptedRun : List Operation := [
  .addImport ⟨"env", "f", .func ⟨0⟩⟩,
  .addImport ⟨"env", "g", .global ⟨.i32, false⟩⟩,
  .addImport ⟨"env", "h", .func ⟨1⟩⟩,
  .declareMemory ⟨⟨1, none⟩⟩,
  .addImport ⟨"env", "late", .func ⟨0⟩⟩,
  .declareFunction ⟨2⟩,
  .defineFunction ⟨3⟩ ⟨[], Code.empty⟩,
  .addBody ⟨[], Code.empty⟩,
  .defineFunction ⟨4⟩ ⟨[], Code.empty⟩]

theorem issued_numbers_space_interruptedRun :
    (∀ s, ((empty.after (interruptedRun ++ [.declareFunction ⟨5⟩])).space s).length < UInt32.size) ∧
      (empty.issued .func interruptedRun).map (·.1.toNat) = [0, 1, 2, 3] ∧
      ∀ p ∈ empty.issued .func interruptedRun,
        (empty.after (interruptedRun ++ [.declareFunction ⟨5⟩])).entity? .func p.1 = some p.2 := by
  have h : ∀ s, ((empty.after (interruptedRun ++ [.declareFunction ⟨5⟩])).space s).length
      < UInt32.size := by
    intro s
    cases s <;> decide
  obtain ⟨hindices, -, -, -, -, hentity⟩ := (issued_numbers_space _ _ h).1 .func
  exact ⟨h, hindices, hentity⟩

end Module

end WasmBuilder
