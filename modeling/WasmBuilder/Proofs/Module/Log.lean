import Mathlib.Algebra.Ring.Nat
import WasmBuilder.Proofs.Module.Freeze
import WasmBuilder.Proofs.Reader.Walk

/-!
# What the log tells

The log of a module is written along the way: a size is reported before the section is there, and
the number of imports before the first definition. What it says holds all the same.

1. A serialization reports each section once, with its size or as left out. The sections that are
   found in the bytes are the ones that the log reports as written, with these sizes
   (`Module.event_eq_ofFound`), and the sizes add up to the length of the module
   (`Module.length_serialize_result`).
2. Freezing the imports is reported by the operation that closes them, and by no other
   (`Module.freezeReports_perform`). Along a run this happens at most once, and the number that was
   reported stays the number of imports (`Module.freezeReports_runLog`).
-/

namespace WasmBuilder

/-- The ids of the sections of a module, in the order in which they are written. -/
def SectionId.inOrder : List SectionId :=
  [.type, .imports, .function, .table, .memory, .global, .exports, .start, .element, .dataCount,
    .code, .data]

namespace Event

/-- The size that a section was written with, going by the event. -/
def writtenSize? : Event → Option Nat
  | sectionWritten _ size => some size
  | _ => none

/-- The number of entries that the imports were frozen with, going by the event. -/
def frozenWith? : Event → Option Nat
  | importsFrozen entries => some entries
  | _ => none

/-- What there is to say about a section, going by the sections that a walk found. -/
def ofFound (found : List (UInt8 × Bytes)) (id : SectionId) : Event :=
  match found.lookup id.byte with
  | some content => sectionWritten id content.length
  | none => sectionSkipped id

end Event

/-! ## Serializing -/

namespace Section

theorem event_of_size_eq_zero {s : Section} (h : s.size = 0) : s.event = .sectionSkipped s.id :=
  if_pos h

theorem event_of_size_ne_zero {s : Section} (h : s.size ≠ 0) :
    s.event = .sectionWritten s.id s.size :=
  if_neg h

theorem level_event (s : Section) : s.event.level = .trace := by
  unfold event
  split <;> rfl

theorem frozenWith?_event (s : Section) : s.event.frozenWith? = none := by
  unfold event
  split <;> rfl

/-- A section that is written takes a byte for its id, then its size, then its contents. -/
theorem length_toBytes {s : Section} (h : s.size ≠ 0) (hsized : s.WellSized) :
    s.toBytes.length = 1 + Leb128.unsignedSize s.size + s.size := by
  rw [toBytes_of_size_ne_zero h, List.length_cons, List.length_append, Leb128.length_unsigned,
    ← hsized h]
  omega

end Section

namespace Module

/-- What a walk through the bytes of the module finds: the id bytes and contents of the sections
that are written. -/
def found (m : Module) : List (UInt8 × Bytes) :=
  m.written.map fun s => (s.id.byte, Write.toBytesAll s.content)

theorem mem_written_iff {m : Module} {s : Section} :
    s ∈ m.written ↔ s ∈ m.sections ∧ s.size ≠ 0 := by
  simp [written]

/-- Under the id byte of a section nothing is found but its contents. -/
theorem mem_found_iff {m : Module} {s : Section} (hs : s ∈ m.sections) {content : Bytes} :
    (s.id.byte, content) ∈ m.found ↔ s.size ≠ 0 ∧ Write.toBytesAll s.content = content := by
  unfold found
  constructor
  · intro hmem
    obtain ⟨t, ht, heq⟩ := List.mem_map.mp hmem
    obtain ⟨hbyte, hcontent⟩ := Prod.mk.inj heq
    obtain ⟨htm, hne⟩ := mem_written_iff.mp ht
    have hts : t = s := by
      rw [← sectionOf_id_of_mem htm, SectionId.byte_inj hbyte, sectionOf_id_of_mem hs]
    rw [← hts]
    exact ⟨hne, hcontent⟩
  · rintro ⟨hne, rfl⟩
    exact List.mem_map.mpr ⟨s, mem_written_iff.mpr ⟨hs, hne⟩, rfl⟩

/-- **The log says of a section what a walk through the bytes says of it.** -/
theorem event_eq_ofFound {m : Module} {s : Section} (hs : s ∈ m.sections) :
    s.event = .ofFound m.found s.id := by
  unfold Event.ofFound
  cases hlookup : m.found.lookup s.id.byte with
  | none =>
    refine Section.event_of_size_eq_zero (Decidable.byContradiction fun hne => ?_)
    have hmem := (mem_found_iff hs).mpr ⟨hne, rfl⟩
    simpa using List.lookup_eq_none_iff.mp hlookup _ hmem
  | some content =>
    -- a look-up stops at the first entry, but no other one has this id byte
    obtain ⟨before, later, hcut, -⟩ := List.lookup_eq_some_iff.mp hlookup
    have hmem : (s.id.byte, content) ∈ m.found := by
      rw [hcut]
      exact List.mem_append_right _ List.mem_cons_self
    obtain ⟨hne, rfl⟩ := (mem_found_iff hs).mp hmem
    rw [Section.event_of_size_ne_zero hne, m.wellSized_sections s hs hne]

/-- The log has one record for each section, in order. -/
theorem sectionLog_eq (m : Module) : m.sectionLog = SectionId.inOrder.map (.ofFound m.found) := by
  have hids : m.sections.map Section.id = SectionId.inOrder := by
    simp [sections, SectionId.inOrder]
  rw [← hids, List.map_map]
  exact List.map_congr_left fun s hs => event_eq_ofFound hs

theorem level_sectionLog (m : Module) :
    m.sectionLog.map Event.level = List.replicate 12 .trace := by
  show _ = List.replicate m.sectionLog.length Level.trace
  refine List.map_eq_replicate_iff.mpr fun event hevent => ?_
  obtain ⟨s, -, rfl⟩ := List.mem_map.mp hevent
  exact s.level_event

/-- The sizes that the log reports are those of the sections that are written. -/
theorem filterMap_sectionLog (m : Module) :
    m.sectionLog.filterMap Event.writtenSize? = m.written.map Section.size := by
  unfold sectionLog written
  rw [List.filterMap_map, ← List.filterMap_eq_map, List.filterMap_filter]
  congr 1
  funext s
  by_cases h : s.size = 0
  · simp [h, Section.event_of_size_eq_zero h, Event.writtenSize?]
  · simp [h, Section.event_of_size_ne_zero h, Event.writtenSize?]

/-- **A module is as long as its header and the sections that are written.** -/
theorem length_serialize_result (m : Module) :
    m.serialize.result.length
      = 8 + ((m.written.map Section.size).map fun n => 1 + Leb128.unsignedSize n + n).sum := by
  rw [serialize_result, ← Section.flatMap_toBytes_filter, List.length_append, List.length_flatMap,
    List.map_map]
  congr 2
  refine List.map_congr_left fun s hs => ?_
  obtain ⟨hmem, hne⟩ := mem_written_iff.mp hs
  exact Section.length_toBytes hne (m.wellSized_sections s hmem)

/-- What a serialization warns of. -/
def warnings (m : Module) : List Event :=
  match m.check with
  | .error e => [.inconsistent e]
  | .ok () => []

theorem serialize_log (m : Module) :
    m.serialize.log = m.warnings ++ m.sectionLog ++ [.serialized m.serialize.result.length] := rfl

theorem warnings_eq_nil_iff (m : Module) : m.warnings = [] ↔ m.check = .ok () := by
  unfold warnings
  cases m.check <;> simp

theorem warnings_eq_singleton_iff (m : Module) (e : BuildError) :
    m.warnings = [.inconsistent e] ↔ m.check = .error e := by
  unfold warnings
  cases m.check <;> simp

theorem mem_warnings {m : Module} {event : Event} (h : event ∈ m.warnings) :
    ∃ e, event = .inconsistent e := by
  unfold warnings at h
  cases hcheck : m.check with
  | error e =>
    rw [hcheck] at h
    exact ⟨e, List.mem_singleton.mp h⟩
  | ok u =>
    rw [hcheck] at h
    cases h

theorem level_warnings (m : Module) :
    m.warnings.map Event.level = List.replicate m.warnings.length .warn := by
  refine List.map_eq_replicate_iff.mpr fun event hevent => ?_
  obtain ⟨e, rfl⟩ := mem_warnings hevent
  rfl

/-- Only the records of sections have sizes. -/
theorem filterMap_serialize_log (m : Module) :
    m.serialize.log.filterMap Event.writtenSize? = m.written.map Section.size := by
  have hwarnings : m.warnings.filterMap Event.writtenSize? = [] := by
    refine List.filterMap_eq_nil_iff.mpr fun event hevent => ?_
    obtain ⟨e, rfl⟩ := mem_warnings hevent
    rfl
  rw [serialize_log, List.filterMap_append, List.filterMap_append, hwarnings, filterMap_sectionLog]
  exact List.append_nil _

/-- **The log of a serialization accounts for every byte.** It starts with a warning if and only if
the module fails its check, and the warning has the error in it. One record for each section
follows, in the order of the format. A section that a walk finds in the bytes is reported as
written, with the size of the contents that were found, and any other as left out. The last record
has the length of the module, which is that of the header and of the sections reported as written:
for each of them a byte for its id, its size and its contents. -/
theorem log_accounts_for_every_byte (m : Module) :
    ∃ found warnings records total,
      walk m.serialize.result = some found ∧
      m.serialize.log = warnings ++ records ++ [.serialized total] ∧
      (warnings = [] ↔ m.check = .ok ()) ∧
      (∀ e, warnings = [.inconsistent e] ↔ m.check = .error e) ∧
      records = SectionId.inOrder.map (.ofFound found) ∧
      m.serialize.log.map Event.level
        = List.replicate warnings.length .warn ++ List.replicate 12 .trace ++ [.debug] ∧
      total = m.serialize.result.length ∧
      total = 8 + ((m.serialize.log.filterMap Event.writtenSize?).map fun n =>
        1 + Leb128.unsignedSize n + n).sum := by
  refine ⟨m.found, m.warnings, m.sectionLog, m.serialize.result.length, walk_serialize_result m,
    m.serialize_log, m.warnings_eq_nil_iff, m.warnings_eq_singleton_iff, m.sectionLog_eq, ?_, rfl,
    ?_⟩
  · rw [serialize_log, List.map_append, List.map_append, level_warnings, level_sectionLog]
    rfl
  · rw [filterMap_serialize_log, length_serialize_result]

end Module

/-! ## Freezing -/

/-- The numbers of entries that a log reports the imports to have been frozen with. -/
def freezeReports (log : List Event) : List Nat := log.filterMap Event.frozenWith?

theorem mem_freezeReports {log : List Event} {n : Nat} :
    n ∈ freezeReports log ↔ .importsFrozen n ∈ log := by
  unfold freezeReports
  rw [List.mem_filterMap]
  constructor
  · rintro ⟨event, hmem, hevent⟩
    cases event with
    | importsFrozen entries =>
      obtain rfl := Option.some.inj hevent
      exact hmem
    | _ => cases hevent
  · intro hmem
    exact ⟨_, hmem, rfl⟩

theorem freezeReports_append (log later : List Event) :
    freezeReports (log ++ later) = freezeReports log ++ freezeReports later :=
  List.filterMap_append

theorem freezeReports_append_of_nil {later : List Event} (h : freezeReports later = [])
    (log : List Event) : freezeReports (log ++ later) = freezeReports log := by
  rw [freezeReports_append, h, List.append_nil]

namespace Module

theorem freezeReports_sectionLog (m : Module) : freezeReports m.sectionLog = [] := by
  refine List.filterMap_eq_nil_iff.mpr fun event hevent => ?_
  obtain ⟨s, -, rfl⟩ := List.mem_map.mp hevent
  exact s.frozenWith?_event

/-- Only the first time that the imports are frozen is worth a report. -/
theorem freezeReports_freezeImports (m : Module) :
    freezeReports m.freezeImports.log
      = if m.imports.frozen then [] else [m.imports.entries.length] := by
  show freezeReports m.imports.freeze.log = _
  unfold ImportTable.freeze
  split <;> rfl

/-- An operation that closes the imports reports what freezing them reports. -/
theorem freezeReports_of_closes {m : Module} {op : Operation}
    (h : (m.performed op).closesImports = true) :
    freezeReports (m.perform op).log = freezeReports m.freezeImports.log := by
  cases op with
  | freezeImports => rfl
  | declareFunction | declareTable | declareMemory | declareGlobal =>
    exact freezeReports_append_of_nil rfl _
  | defineFunction type body =>
    cases hcheck : m.check with
    | error e =>
      rw [performed, perform_defineFunction_of_error m type body hcheck] at h
      cases h
    | ok u =>
      -- behind the report stand the records of the function and of its body
      rw [perform, defineFunction, hcheck]
      exact (freezeReports_append_of_nil rfl _).trans (freezeReports_append_of_nil rfl _)
  | _ => cases h

/-- An operation that does not close the imports does not report that they are frozen. -/
theorem freezeReports_of_not_closes {m : Module} {op : Operation}
    (h : (m.performed op).closesImports = false) : freezeReports (m.perform op).log = [] := by
  cases op with
  | addImport i =>
    cases hfrozen : m.imports.frozen with
    | true =>
      rw [perform_addImport_of_frozen m i hfrozen]
      rfl
    | false =>
      rw [perform_addImport_of_not_frozen m i hfrozen]
      rfl
  | freezeImports | declareFunction | declareTable | declareMemory | declareGlobal => cases h
  | defineFunction type body =>
    cases hcheck : m.check with
    | error e =>
      rw [perform_defineFunction_of_error m type body hcheck]
      rfl
    | ok u =>
      have hok := (perform_defineFunction_of_ok m type body hcheck).1
      rw [performed, hok] at h
      cases h
  | setStart f =>
    show freezeReports (m.setStart f).log = []
    unfold setStart
    cases m.start <;> rfl
  | serialize =>
    have hwarnings : freezeReports m.warnings = [] := by
      refine List.filterMap_eq_nil_iff.mpr fun event hevent => ?_
      obtain ⟨e, rfl⟩ := mem_warnings hevent
      rfl
    show freezeReports m.serialize.log = []
    rw [serialize_log, freezeReports_append_of_nil rfl,
      freezeReports_append_of_nil m.freezeReports_sectionLog, hwarnings]
  | measure | writeCode => exact freezeReports_sectionLog m
  | _ => rfl

/-- **An operation reports that the imports are frozen if it is the one that freezes them.** -/
theorem freezeReports_perform (m : Module) (op : Operation) :
    freezeReports (m.perform op).log
      = if m.imports.frozen = false ∧ (m.performed op).closesImports = true
        then [m.imports.entries.length] else [] := by
  cases hcloses : (m.performed op).closesImports with
  | true =>
    rw [freezeReports_of_closes hcloses, freezeReports_freezeImports]
    cases m.imports.frozen <;> rfl
  | false => rw [freezeReports_of_not_closes hcloses, if_neg (by simp)]

/-- An operation that closes the imports leaves them as they are, but for the mark. -/
theorem imports_perform_of_closes {m : Module} {op : Operation}
    (h : (m.performed op).closesImports = true) :
    (m.perform op).state.imports = { m.imports with frozen := true } := by
  have hnone : (m.performed op).addition.imports = [] := by
    unfold performed Performed.addition Performed.succeeded
    cases op with
    | addImport => cases h
    | check | defineFunction =>
      generalize (m.perform _).result = r
      cases r <;> rfl
    | _ => rfl
  rw [perform_state, extend, freezes_addition_performed, h, hnone, List.append_nil, Bool.or_true]
  rfl

/-- All that is logged along a run. -/
def runLog (m : Module) (ops : List Operation) : List Event := (m.run ops).flatMap Step.log

theorem runLog_cons (m : Module) (op : Operation) (ops : List Operation) :
    m.runLog (op :: ops) = (m.perform op).log ++ (m.perform op).state.runLog ops := rfl

/-- **A run reports once that the imports are frozen if it freezes them, and otherwise not at all.**
The number in the report is that of the imports at its end. -/
theorem freezeReports_runLog (m : Module) (ops : List Operation) :
    freezeReports (m.runLog ops)
      = if m.imports.frozen = false ∧ (m.after ops).imports.frozen = true
        then [(m.after ops).imports.entries.length] else [] := by
  induction ops generalizing m with
  | nil =>
    rw [after_nil, if_neg (by simp)]
    rfl
  | cons op ops ih =>
    rw [runLog_cons, freezeReports_append, freezeReports_perform, ih, after_cons, frozen_perform]
    cases hfrozen : m.imports.frozen with
    | true => simp
    | false =>
      cases hcloses : (m.performed op).closesImports with
      | false => simp
      | true =>
        -- the report is made here, and from here on the imports stay
        have himports := imports_perform_of_closes hcloses
        rw [imports_after_of_frozen (by rw [himports]) ops, himports]
        simp

/-- Where it is reported that the imports are frozen, they were not before, and they stay as they
are. -/
theorem imports_of_reported {m : Module} {op : Operation} {n : Nat}
    (h : .importsFrozen n ∈ (m.perform op).log) (later : List Operation) :
    m.imports.frozen = false ∧ m.imports.entries.length = n ∧
      ((m.perform op).state.after later).imports = { m.imports with frozen := true } := by
  rw [← mem_freezeReports, freezeReports_perform] at h
  split at h
  · next hcloses =>
    obtain ⟨hfrozen, hcloses⟩ := hcloses
    have himports := imports_perform_of_closes hcloses
    rw [imports_after_of_frozen (by rw [himports]) later, himports]
    exact ⟨hfrozen, (List.mem_singleton.mp h).symm, rfl⟩
  · cases h

/-- **Freezing is reported once and is final.** Along a run of an empty module it is reported at
most once that the imports are frozen, and it has been reported if and only if they are. The
operation that reports it finds them not frozen, and as many as the report says. So many they stay
at every later point of the run, and in each space as many as at that moment. -/
theorem freezing_is_reported_once :
    (∀ ops, (freezeReports (empty.runLog ops)).length ≤ 1 ∧
      ((∃ n, .importsFrozen n ∈ empty.runLog ops) ↔ (empty.after ops).counts.frozen = true)) ∧
    ∀ before op later n, .importsFrozen n ∈ ((empty.after before).perform op).log →
      let moment := (empty.after before).counts
      let point := (empty.after (before ++ op :: later)).counts
      moment.frozen = false ∧ moment.imports = n ∧
        point.imports = n ∧ point.imported = moment.imported := by
  refine ⟨fun ops => ?_, fun before op later n h => ?_⟩
  · have hreports := freezeReports_runLog empty ops
    simp only [← mem_freezeReports, hreports]
    show _ ∧ (_ ↔ (empty.after ops).imports.frozen = true)
    cases (empty.after ops).imports.frozen <;> simp [empty, ImportTable.empty]
  · obtain ⟨hfrozen, hentries, himports⟩ := imports_of_reported h later
    refine ⟨hfrozen, hentries, ?_⟩
    show (empty.after (before ++ op :: later)).imports.entries.length = n ∧
      (empty.after (before ++ op :: later)).imports.counts = _
    rw [after_append, after_cons, himports]
    exact ⟨hentries, rfl⟩

/-- A run in which a global freezes two imports, and in which others come too late. -/
def freezingRun : List Operation := [
  .addImport ⟨"env", "f", .func ⟨0⟩⟩,
  .addImport ⟨"env", "m", .mem ⟨⟨1, none⟩⟩⟩,
  .declareGlobal ⟨.i32, false⟩ Code.empty,
  .freezeImports,
  .addImport ⟨"env", "late", .global ⟨.i32, false⟩⟩,
  .declareTable ⟨.funcRef, ⟨1, none⟩⟩]

theorem freezing_is_reported_once_freezingRun :
    .importsFrozen 2 ∈ ((empty.after (freezingRun.take 2)).perform
        (.declareGlobal ⟨.i32, false⟩ Code.empty)).log ∧
      (empty.after (freezingRun.take 2)).counts.imports = 2 ∧
      (empty.after freezingRun).counts.imports = 2 ∧
      (empty.after freezingRun).counts.imported
        = (empty.after (freezingRun.take 2)).counts.imported := by
  have hreported : .importsFrozen 2 ∈ ((empty.after (freezingRun.take 2)).perform
      (.declareGlobal ⟨.i32, false⟩ Code.empty)).log := by decide
  obtain ⟨-, hfinal⟩ := freezing_is_reported_once
  obtain ⟨-, hmoment, himports, himported⟩ := hfinal _ _ (freezingRun.drop 3) _ hreported
  exact ⟨hreported, hmoment, himports, himported⟩

end Module

end WasmBuilder
