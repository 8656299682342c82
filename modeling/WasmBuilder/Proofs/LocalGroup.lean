import Mathlib.Data.List.Chain
import WasmBuilder.FunctionBody

/-!
# Runs of locals

A body declares its locals in runs. The same locals can be declared in many ways: a run can be cut
in two, and runs of no locals can stand anywhere. `LocalGroup.ofTypes` joins all that can be joined.

1. Locals that are taken up one by one, each behind those before it, come to the same runs
   (`LocalGroup.ofTypes_eq_foldl`).
2. The runs declare the locals that they were made of (`LocalGroup.expand_ofTypes`). This is where
   the counts must not wrap around.
3. Runs with at least one local each and with no equal neighbours are what their locals are grouped
   into (`LocalGroup.Canonical.ofTypes_expand`), and no runs with the same locals are fewer
   (`LocalGroup.length_ofTypes_expand_le`).
-/

namespace WasmBuilder

namespace LocalGroup

variable {t : ValType} {ts : List ValType} {g : LocalGroup} {gs : List LocalGroup}

theorem cons_of_type_eq (h : g.type = t) : cons t (g :: gs) = ⟨g.count + 1, t⟩ :: gs := if_pos h

theorem cons_of_type_ne (h : g.type ≠ t) : cons t (g :: gs) = ⟨1, t⟩ :: g :: gs := if_neg h

/-! ## One local after the other -/

/-- Puts one more local behind a list of runs, in the last run if the types agree. -/
def snoc : List LocalGroup → ValType → List LocalGroup
  | [], t => [⟨1, t⟩]
  | [g], t => if g.type = t then [⟨g.count + 1, t⟩] else [g, ⟨1, t⟩]
  | g :: g' :: gs, t => g :: snoc (g' :: gs) t

/-- It makes no difference at which end a local is put in first. -/
theorem cons_snoc (s t : ValType) (gs : List LocalGroup) :
    cons s (snoc gs t) = snoc (cons s gs) t := by
  match gs with
  | [] =>
    by_cases h : s = t
    · simp [cons, snoc, h]
    · simp [cons, snoc, h, Ne.symm h]
  | [g] =>
    -- the one run can take up both locals, either or none
    by_cases hs : g.type = s <;> by_cases ht : g.type = t <;> simp_all [cons, snoc]
  | g :: g' :: gs =>
    by_cases hs : g.type = s
    · simp [cons, snoc, hs]
    · simp [cons, snoc, hs]

theorem ofTypes_concat (ts : List ValType) (t : ValType) :
    ofTypes (ts ++ [t]) = snoc (ofTypes ts) t := by
  induction ts with
  | nil => rfl
  | cons s ts ih => rw [List.cons_append, ofTypes, ofTypes, ih, cons_snoc]

/-- **The loop that takes up the locals from first to last makes the same runs.** -/
theorem ofTypes_eq_foldl (ts : List ValType) : ofTypes ts = ts.foldl snoc [] := by
  induction ts using List.reverseRecOn with
  | nil => rfl
  | append_singleton ts t ih =>
    rw [ofTypes_concat, ih, List.foldl_append]
    rfl

/-! ## The locals of runs -/

theorem expand_cons (g : LocalGroup) (gs : List LocalGroup) :
    expand (g :: gs) = List.replicate g.count.toNat g.type ++ expand gs := rfl

theorem length_expand_cons (g : LocalGroup) (gs : List LocalGroup) :
    (expand (g :: gs)).length = g.count.toNat + (expand gs).length := by
  rw [expand_cons, List.length_append, List.length_replicate]

/-- A count that can still be raised goes up by one. -/
theorem toNat_count_add_one {n : UInt32} (h : n.toNat + 1 < UInt32.size) :
    (n + 1).toNat = n.toNat + 1 := by
  rw [UInt32.toNat_add]
  exact Nat.mod_eq_of_lt h

/-- One more local in front of the runs is one more in front of what they declare. -/
theorem expand_cons_local (h : (expand gs).length + 1 < UInt32.size) :
    expand (cons t gs) = t :: expand gs := by
  cases gs with
  | nil => rfl
  | cons g gs =>
    by_cases htype : g.type = t
    · rw [length_expand_cons] at h
      rw [cons_of_type_eq htype, expand_cons, expand_cons, toNat_count_add_one (by omega), htype,
        List.replicate_succ, List.cons_append]
    · rw [cons_of_type_ne htype]
      rfl

/-- **Nothing is lost in grouping.** -/
theorem expand_ofTypes (h : ts.length < UInt32.size) : expand (ofTypes ts) = ts := by
  induction ts with
  | nil => rfl
  | cons t ts ih =>
    rw [List.length_cons] at h
    have hrest : expand (ofTypes ts) = ts := ih (by omega)
    rw [ofTypes, expand_cons_local (by rw [hrest]; exact h), hrest]

/-- As long as the locals can be counted, the counts of the runs add up to their number. -/
theorem toNat_total (h : (expand gs).length < UInt32.size) :
    (total gs).toNat = (expand gs).length := by
  induction gs with
  | nil => rfl
  | cons g gs ih =>
    rw [length_expand_cons] at h ⊢
    have hrest : (total gs).toNat = (expand gs).length := ih (by omega)
    show (g.count + total gs).toNat = _
    rw [UInt32.toNat_add, hrest]
    exact Nat.mod_eq_of_lt h

theorem length_expand_take_le (gs : List LocalGroup) (k : Nat) :
    (expand (gs.take k)).length ≤ (expand gs).length := by
  conv => rhs; rw [← List.take_append_drop k gs]
  rw [expand, expand, List.flatMap_append, List.length_append]
  exact Nat.le_add_right _ _

/-! ## Runs that cannot be joined -/

/-- Every run has a local, and neighbours have different types. -/
structure Canonical (gs : List LocalGroup) : Prop where
  count_pos : ∀ g ∈ gs, 0 < g.count
  isChain : (gs.map (·.type)).IsChain (· ≠ ·)

instance (gs : List LocalGroup) : Decidable (Canonical gs) :=
  decidable_of_iff ((∀ g ∈ gs, 0 < g.count) ∧ (gs.map (·.type)).IsChain (· ≠ ·))
    ⟨fun h => ⟨h.1, h.2⟩, fun h => ⟨h.count_pos, h.isChain⟩⟩

theorem Canonical.tail (h : Canonical (g :: gs)) : Canonical gs where
  count_pos g' hg' := h.count_pos g' (List.mem_cons_of_mem g hg')
  isChain := h.isChain.tail

/-- The types of the runs change only if a run is added for the local. -/
theorem map_type_cons (t : ValType) (gs : List LocalGroup) :
    (cons t gs).map (·.type)
      = if (gs.map (·.type)).head? = some t then gs.map (·.type) else t :: gs.map (·.type) := by
  cases gs with
  | nil => rfl
  | cons g gs =>
    by_cases h : g.type = t
    · simp [cons, h]
    · simp [cons, h]

/-- The first run has the type of the first local. -/
theorem head?_map_type_ofTypes (ts : List ValType) :
    ((ofTypes ts).map (·.type)).head? = ts.head? := by
  cases ts with
  | nil => rfl
  | cons t ts =>
    rw [ofTypes, map_type_cons]
    split
    · next h => exact h
    · rfl

theorem Canonical.cons (h : Canonical gs) (hlength : (expand gs).length + 1 < UInt32.size) :
    Canonical (cons t gs) where
  count_pos := by
    cases gs with
    | nil => simp [LocalGroup.cons]
    | cons g gs =>
      by_cases htype : g.type = t
      · rw [length_expand_cons] at hlength
        have hpos : 0 < g.count + 1 := by
          rw [UInt32.lt_iff_toNat_lt, toNat_count_add_one (by omega)]
          exact Nat.succ_pos _
        rw [cons_of_type_eq htype]
        exact List.forall_mem_cons.mpr ⟨hpos, h.tail.count_pos⟩
      · rw [cons_of_type_ne htype]
        exact List.forall_mem_cons.mpr ⟨UInt32.zero_lt_one, h.count_pos⟩
  isChain := by
    rw [map_type_cons]
    split
    · exact h.isChain
    · next hne =>
      refine List.isChain_cons.mpr ⟨fun s hs heq => hne ?_, h.isChain⟩
      rw [heq]
      exact hs

theorem canonical_ofTypes (h : ts.length < UInt32.size) : Canonical (ofTypes ts) := by
  induction ts with
  | nil => exact ⟨by simp [ofTypes], .nil⟩
  | cons t ts ih =>
    rw [List.length_cons] at h
    refine (ih (by omega)).cons ?_
    rw [expand_ofTypes (by omega)]
    exact h

/-! ## Grouping what runs declare -/

/-- Equal locals that no equal one follows are one run. -/
theorem ofTypes_replicate_append {n : Nat} (hn : 0 < n) (h : ts.head? ≠ some t) :
    ofTypes (List.replicate n t ++ ts) = ⟨UInt32.ofNat n, t⟩ :: ofTypes ts := by
  induction n, hn using Nat.le_induction with
  | base =>
    show cons t (ofTypes ts) = _
    rw [← head?_map_type_ofTypes] at h
    cases hgs : ofTypes ts with
    | nil => rfl
    | cons g gs =>
      rw [hgs] at h
      exact cons_of_type_ne fun htype => h (congrArg some htype)
  | succ n hn ih =>
    show cons t (ofTypes (List.replicate n t ++ ts)) = _
    rw [ih, UInt32.ofNat_add]
    exact cons_of_type_eq rfl

/-- The first local is of the type of the first run, since that run is not empty. -/
theorem Canonical.head?_expand (h : Canonical gs) :
    (expand gs).head? = (gs.map (·.type)).head? := by
  cases gs with
  | nil => rfl
  | cons g gs =>
    have hpos : 0 < g.count.toNat := h.count_pos g (List.mem_cons_self ..)
    obtain ⟨n, hn⟩ := Nat.exists_eq_succ_of_ne_zero (Nat.ne_of_gt hpos)
    rw [expand_cons, hn]
    rfl

/-- **Runs that cannot be joined are what their locals are grouped into.** -/
theorem Canonical.ofTypes_expand (h : Canonical gs) : ofTypes (expand gs) = gs := by
  induction gs with
  | nil => rfl
  | cons g gs ih =>
    have hpos : 0 < g.count.toNat := h.count_pos g (List.mem_cons_self ..)
    have hhead : (expand gs).head? ≠ some g.type := by
      rw [h.tail.head?_expand]
      intro hsame
      exact (List.isChain_cons.mp h.isChain).1 _ hsame rfl
    rw [expand_cons, ofTypes_replicate_append hpos hhead, ih h.tail, UInt32.ofNat_toNat]

/-- Equal locals in front make one more run at most. -/
theorem length_ofTypes_replicate_append_le (n : Nat) (t : ValType) (ts : List ValType) :
    (ofTypes (List.replicate n t ++ ts)).length ≤ (ofTypes ts).length + 1 := by
  induction n with
  | zero => exact Nat.le_succ _
  | succ n ih =>
    have hlength := congrArg List.length (map_type_cons t (ofTypes (List.replicate n t ++ ts)))
    rw [List.length_map, head?_map_type_ofTypes] at hlength
    rw [List.replicate_succ, List.cons_append, ofTypes, hlength]
    split
    · rw [List.length_map]
      exact ih
    · next hne =>
      -- a run is added only for the first of the locals
      cases n with
      | zero => rw [List.length_cons, List.length_map]; exact Nat.le_refl _
      | succ n => exact absurd rfl hne

/-- **No runs are fewer than those that their locals are grouped into.** -/
theorem length_ofTypes_expand_le (gs : List LocalGroup) :
    (ofTypes (expand gs)).length ≤ gs.length := by
  induction gs with
  | nil => exact Nat.le_refl 0
  | cons g gs ih =>
    calc (ofTypes (expand (g :: gs))).length
        ≤ (ofTypes (expand gs)).length + 1 := length_ofTypes_replicate_append_le _ _ _
      _ ≤ (g :: gs).length := Nat.succ_le_succ ih

end LocalGroup

/-! ## Bodies -/

namespace FunctionBody

open LocalGroup

/-- **The locals of a body are grouped without loss, and in one way only.** The runs are those that
a loop over the locals makes. They declare these locals, each run has at least one, and neighbours
differ. Their counts add up to the number of locals, and no sum on the way there wraps around.
Whatever other runs declare the same locals are at least as many, and equal to these if they have no
run to spare and no neighbours to join. -/
theorem ofLocals_groups_uniquely (types : List ValType) (code : Code)
    (h : types.length < UInt32.size) :
    let groups := (ofLocals types code).locals
    groups = types.foldl snoc [] ∧
    expand groups = types ∧
    Canonical groups ∧
    (ofLocals types code).numLocals.toNat = types.length ∧
    (∀ k, (total (groups.take k)).toNat = (expand (groups.take k)).length) ∧
    (∀ other, expand other = types → groups.length ≤ other.length) ∧
    (∀ other, expand other = types ∧ Canonical other ↔ other = groups) ∧
    ∀ other, Canonical other → (ofLocals (expand other) code).locals = other := by
  intro groups
  have hexpand : expand groups = types := expand_ofTypes h
  have hcanonical : Canonical groups := canonical_ofTypes h
  refine ⟨ofTypes_eq_foldl types, hexpand, hcanonical, ?_, fun k => ?_, ?_, fun other => ⟨?_, ?_⟩,
    fun other hother => hother.ofTypes_expand⟩
  · show (total groups).toNat = _
    rw [toNat_total (by rw [hexpand]; exact h), hexpand]
  · refine toNat_total (Nat.lt_of_le_of_lt (length_expand_take_le groups k) ?_)
    rw [hexpand]
    exact h
  · rintro other rfl
    exact length_ofTypes_expand_le other
  · rintro ⟨rfl, hother⟩
    exact hother.ofTypes_expand.symm
  · rintro rfl
    exact ⟨hexpand, hcanonical⟩

/-- Runs with a cut in the first stretch of equal types and with an empty run in the second. -/
def looseRuns : List LocalGroup :=
  [⟨1, .i32⟩, ⟨1, .i32⟩, ⟨1, .i64⟩, ⟨0, .f32⟩, ⟨2, .i64⟩, ⟨1, .i32⟩]

theorem ofLocals_groups_uniquely_looseRuns :
    (expand looseRuns).length < UInt32.size ∧ ¬Canonical looseRuns ∧
      (ofLocals (expand looseRuns) Code.empty).locals.length ≤ looseRuns.length ∧
      [⟨2, .i32⟩, ⟨3, .i64⟩, ⟨1, .i32⟩] = (ofLocals (expand looseRuns) Code.empty).locals ∧
      (ofLocals (expand looseRuns) Code.empty).numLocals.toNat = 6 := by
  have h : (expand looseRuns).length < UInt32.size := by decide
  obtain ⟨-, -, -, hnum, -, hle, hunique, -⟩ := ofLocals_groups_uniquely _ Code.empty h
  exact ⟨h, by decide, hle looseRuns rfl, (hunique _).mp (by decide), hnum⟩

end FunctionBody

end WasmBuilder
