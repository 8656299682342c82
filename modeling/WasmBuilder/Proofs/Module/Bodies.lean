import WasmBuilder.Proofs.Module.Freeze
import WasmBuilder.Proofs.Module.IndexSpace

/-!
# Functions and their bodies

A function and its body belong together by their positions: the third local function has the third
body. A module keeps the two lists apart. Functions can be declared and bodies added on their own,
and only a definition of both at once asks whether the lists are equally long.

1. `Module.tally` counts the operations of a run that made one of the lists, or both, longer. The
   lengths are sums of these numbers (`Module.length_functions_after`,
   `Module.length_bodies_after`). The lists are in step if and only if as many functions were
   declared as bodies were added.
2. `Module.Holds` says that the function with an index has a type and a body. A definition that
   succeeds makes it so (`Module.holds_defineFunction`), and no operation after it changes that
   (`Module.Holds.after`).
-/

namespace WasmBuilder

/-! ## Counting operations -/

namespace Performed

/-- Whether a function was declared without its body. -/
def declaresFunction : Performed → Bool
  | ⟨.declareFunction _, _⟩ => true
  | _ => false

/-- Whether a body was added without its function. -/
def addsBody : Performed → Bool
  | ⟨.addBody _, _⟩ => true
  | _ => false

/-- Whether a function was defined together with its body. -/
def definesFunction : Performed → Bool
  | ⟨.defineFunction _ _, result⟩ => result.isOk
  | _ => false

end Performed

/-- How often a run declared a function, added a body and defined both together. -/
structure Tally where
  declared : Nat
  added : Nat
  defined : Nat

/-- Where each element of a list gives one entry for `p` and one for `q`, as far as they hold of it,
there are as many entries as elements with `p` and elements with `q`. -/
theorem length_flatMap_eq_countP_add {α β : Type} {f : α → List β} {p q : α → Bool} {l : List α}
    (h : ∀ x ∈ l, (f x).length = (p x).toNat + (q x).toNat) :
    (l.flatMap f).length = l.countP p + l.countP q := by
  induction l with
  | nil => rfl
  | cons x l ih =>
    obtain ⟨hx, hl⟩ := List.forall_mem_cons.mp h
    rw [List.flatMap_cons, List.length_append, hx, ih hl, List.countP_cons, List.countP_cons]
    cases p x <;> cases q x <;> simp <;> omega

namespace Module

/-- The operations of a run on functions and bodies, by their number. -/
def tally (m : Module) (ops : List Operation) : Tally where
  declared := (m.trace ops).countP Performed.declaresFunction
  added := (m.trace ops).countP Performed.addsBody
  defined := (m.trace ops).countP Performed.definesFunction

/-! ## Lengths -/

/-- An operation adds a function if it declares or defines one, and a body if it adds or defines
one. -/
theorem length_addition_performed (m : Module) (op : Operation) :
    (m.performed op).addition.functions.length
        = (m.performed op).declaresFunction.toNat + (m.performed op).definesFunction.toNat ∧
      (m.performed op).addition.bodies.length
        = (m.performed op).addsBody.toNat + (m.performed op).definesFunction.toNat := by
  unfold performed Performed.addition Performed.succeeded
  cases op with
  | addImport | check | defineFunction =>
    -- these may fail, and then add nothing
    generalize (m.perform _).result = r
    cases r <;> exact ⟨rfl, rfl⟩
  | _ => exact ⟨rfl, rfl⟩

theorem functions_after (m : Module) (ops : List Operation) :
    (m.after ops).functions = m.functions ++ (m.trace ops).flatMap (·.addition.functions) :=
  entries_after (·.functions) (·.functions) (fun _ _ => rfl) m ops

theorem bodies_after (m : Module) (ops : List Operation) :
    (m.after ops).bodies = m.bodies ++ (m.trace ops).flatMap (·.addition.bodies) :=
  entries_after (·.bodies) (·.bodies) (fun _ _ => rfl) m ops

theorem length_functions_after (m : Module) (ops : List Operation) :
    (m.after ops).functions.length
      = m.functions.length + ((m.tally ops).declared + (m.tally ops).defined) := by
  rw [functions_after, List.length_append, length_flatMap_eq_countP_add]
  · rfl
  · exact forall_mem_trace (fun m op => (length_addition_performed m op).1) m ops

theorem length_bodies_after (m : Module) (ops : List Operation) :
    (m.after ops).bodies.length
      = m.bodies.length + ((m.tally ops).added + (m.tally ops).defined) := by
  rw [bodies_after, List.length_append, length_flatMap_eq_countP_add]
  · rfl
  · exact forall_mem_trace (fun m op => (length_addition_performed m op).2) m ops

/-! ## Functions with a body -/

/-- The function with index `i` is a local one, with this type and this body. -/
structure Holds (m : Module) (i : UInt32) (type : TypeIdx) (body : FunctionBody) : Prop where
  /-- The index is past the imported functions. -/
  count_le : m.imports.count .func ≤ i
  function : m.functions[(i - m.imports.count .func).toNat]? = some type
  body : m.bodies[(i - m.imports.count .func).toNat]? = some body

/-- A local function keeps its type and its body. -/
theorem Holds.after {m : Module} {i : UInt32} {type : TypeIdx} {body : FunctionBody}
    (h : m.Holds i type body) (hfrozen : m.imports.frozen = true) (ops : List Operation) :
    (m.after ops).Holds i type body := by
  have himports := imports_after_of_frozen hfrozen ops
  refine ⟨by rw [himports]; exact h.count_le, ?_, ?_⟩
  · obtain ⟨hlt, -⟩ := List.getElem?_eq_some_iff.mp h.function
    rw [himports, functions_after, List.getElem?_append_left hlt, h.function]
  · obtain ⟨hlt, -⟩ := List.getElem?_eq_some_iff.mp h.body
    rw [himports, bodies_after, List.getElem?_append_left hlt, h.body]

variable {m : Module}

/-- As long as the indices of functions do not run out, the next one is past the imports, by the
number of local functions. -/
theorem Numbered.toNat_nextIndex_functions (h : m.Numbered)
    (hlength : (m.space .func).length < UInt32.size) :
    (nextIndex m.functions).toNat = m.functions.length ∧
      m.imports.count .func ≤ m.imports.count .func + nextIndex m.functions := by
  have hcount := h.toNat_count hlength
  rw [space, List.length_append, List.length_map, localsIn, List.length_map] at hlength
  have hnext : (nextIndex m.functions).toNat = m.functions.length :=
    UInt32.toNat_ofNat_of_lt (by omega)
  refine ⟨hnext, ?_⟩
  rw [UInt32.le_iff_toNat_le, UInt32.toNat_add, hcount, hnext, Nat.mod_eq_of_lt hlength]
  exact Nat.le_add_right _ _

/-- Past the imports, the next function comes right after the local functions. -/
theorem nextFunction_sub_count (m : Module) :
    m.imports.count .func + nextIndex m.functions - m.imports.count .func
      = nextIndex m.functions := by
  rw [UInt32.add_comm, UInt32.add_sub_cancel]

/-- The body that is added right after its function gets the position of the function. -/
theorem addBody_declareFunction (haligned : m.functions.length = m.bodies.length) (type : TypeIdx)
    (body : FunctionBody) :
    ((m.declareFunction type).state.addBody body).result = ⟨nextIndex m.functions⟩ := by
  have hbodies : (m.declareFunction type).state.bodies = m.bodies := by
    simp [declareFunction, Step.andThen, freezeImports_state]
  show Index.mk (nextIndex (m.declareFunction type).state.bodies) = _
  rw [hbodies, nextIndex, nextIndex, haligned]

/-- A function that is defined has the type and the body that it was defined with. -/
theorem holds_defineFunction (h : m.Numbered) (hlength : (m.space .func).length < UInt32.size)
    (haligned : m.functions.length = m.bodies.length) (type : TypeIdx) (body : FunctionBody) :
    (m.perform (.defineFunction type body)).state.Holds
      (m.imports.count .func + nextIndex m.functions) type body := by
  obtain ⟨hnext, hle⟩ := h.toNat_nextIndex_functions hlength
  obtain ⟨-, hstate⟩ := perform_defineFunction_of_ok m type body (check_of_length_eq haligned)
  have hcount : (m.perform (.defineFunction type body)).state.imports.count .func
      = m.imports.count .func := by
    rw [hstate]
    rfl
  refine ⟨by rw [hcount]; exact hle, ?_, ?_⟩
  · rw [hcount, nextFunction_sub_count, hnext, hstate]
    exact List.getElem?_concat_length
  · rw [hcount, nextFunction_sub_count, hnext, hstate, haligned]
    exact List.getElem?_concat_length

/-! ## Runs of an empty module -/

/-- **Functions and bodies correspond along every run of an empty module.** Their numbers are those
of the operations that added them. The check, and the definition of a function, succeed if and only
if as many functions were declared as bodies were added. The index of a function that is defined is
as far past the imports as the position that its body is added at, and however the run goes on, its
type and its body stay at that position. -/
theorem functions_match_bodies (ops : List Operation)
    (h : ((empty.after ops).space .func).length < UInt32.size) :
    let m := empty.after ops
    let t := empty.tally ops
    m.counts.functions = t.declared + t.defined ∧
    m.counts.bodies = t.added + t.defined ∧
    (t.declared = t.added →
      m.check = .ok () ∧
      ∀ type body, ∃ i,
        (m.perform (.defineFunction type body)).result = .ok (.index i) ∧
        m.imports.count .func ≤ i ∧
        (i - m.imports.count .func).toNat = m.counts.functions ∧
        ((m.declareFunction type).state.addBody body).result = ⟨i - m.imports.count .func⟩ ∧
        ∀ later, (empty.after (ops ++ .defineFunction type body :: later)).Holds i type body) ∧
    (t.declared ≠ t.added →
      m.check = .error (.misalignedBodies (t.declared + t.defined) (t.added + t.defined)) ∧
      ∀ type body, (m.perform (.defineFunction type body)).result
        = .error (.misalignedBodies (t.declared + t.defined) (t.added + t.defined))) := by
  intro m t
  have hfunctions : m.functions.length = t.declared + t.defined :=
    (length_functions_after empty ops).trans (Nat.zero_add _)
  have hbodies : m.bodies.length = t.added + t.defined :=
    (length_bodies_after empty ops).trans (Nat.zero_add _)
  have hnumbered : m.Numbered := numbered_after_empty ops
  refine ⟨hfunctions, hbodies, fun htally => ?_, fun htally => ?_⟩
  · have haligned : m.functions.length = m.bodies.length := by
      rw [hfunctions, hbodies, htally]
    have hcheck := check_of_length_eq haligned
    refine ⟨hcheck, fun type body => ?_⟩
    obtain ⟨hnext, hle⟩ := hnumbered.toNat_nextIndex_functions h
    obtain ⟨hresult, hstate⟩ := perform_defineFunction_of_ok m type body hcheck
    refine ⟨_, hresult, hle, ?_, ?_, fun later => ?_⟩
    · rw [nextFunction_sub_count]
      exact hnext
    · rw [nextFunction_sub_count]
      exact addBody_declareFunction haligned type body
    · rw [after_append, after_cons]
      refine (holds_defineFunction hnumbered h haligned type body).after ?_ later
      rw [hstate]
      exact Bool.or_true _
  · have hcheck : m.check
        = .error (.misalignedBodies (t.declared + t.defined) (t.added + t.defined)) := by
      rw [← hfunctions, ← hbodies]
      refine check_of_length_ne ?_
      omega
    refine ⟨hcheck, fun type body => ?_⟩
    rw [perform_defineFunction_of_error m type body hcheck]

/-- A run that adds a body before its function, fails to define another function in between and
then makes up for it. -/
def detour : List Operation := [
  .addImport ⟨"env", "f", .func ⟨0⟩⟩,
  .defineFunction ⟨1⟩ ⟨[⟨1, .i32⟩], Code.empty⟩,
  .addBody ⟨[⟨2, .i32⟩], Code.empty⟩,
  .defineFunction ⟨2⟩ ⟨[⟨3, .i32⟩], Code.empty⟩,
  .declareFunction ⟨3⟩]

theorem functions_match_bodies_detour :
    ((empty.after detour).space .func).length < UInt32.size ∧
      (empty.tally detour).declared = (empty.tally detour).added ∧
      ((empty.after detour).perform (.defineFunction ⟨4⟩ ⟨[], Code.empty⟩)).result
        = .ok (.index 3) ∧
      (empty.after (detour ++ [
        .defineFunction ⟨4⟩ ⟨[], Code.empty⟩,
        .addBody ⟨[], Code.empty⟩])).Holds 3 ⟨4⟩ ⟨[], Code.empty⟩ ∧
      (empty.after (detour.take 3)).check = .error (.misalignedBodies 1 2) := by
  have hlength : ((empty.after detour).space .func).length < UInt32.size := by decide
  have htally : (empty.tally detour).declared = (empty.tally detour).added := by decide
  obtain ⟨-, -, haligned, -⟩ := functions_match_bodies detour hlength
  obtain ⟨-, hdefine⟩ := haligned htally
  obtain ⟨i, hresult, -, -, -, hholds⟩ := hdefine ⟨4⟩ ⟨[], Code.empty⟩
  obtain ⟨-, -, -, hmisaligned⟩ := functions_match_bodies (detour.take 3) (by decide)
  have hi : i = 3 := by cases hresult; rfl
  subst hi
  exact ⟨hlength, htally, hresult, hholds [.addBody ⟨[], Code.empty⟩],
    (hmisaligned (by decide)).1⟩

end Module

end WasmBuilder
