import WasmBuilder.Proofs.Module.Trace

/-!
# Indices as positions

Whatever a module numbers, it numbers in the same way: a new entry goes to the end of a list, and
the index that is given out for it is the length that the list had before.

1. `CountsFrom` says that indices, each given out together with an entry, count on from a number. If
   they count from zero and do not run out, an index is the position of its entry, and looking up a
   position finds what was given out under it (`CountsFrom.mem_iff`).
2. If one operation counts on from the length of a list and adds its entries there, so does a whole
   run (`Module.given_run`). Which list and which indices these are is left open.
-/

namespace WasmBuilder

/-! ## Indices that count on -/

/-- The indices, each with what it was given out for, count on from `start`. -/
def CountsFrom {α : Type} (start : Nat) (given : List (UInt32 × α)) : Prop :=
  given.map Prod.fst = (List.range' start given.length).map UInt32.ofNat

section CountsFrom

variable {α : Type} {start : Nat} {given later : List (UInt32 × α)}

theorem countsFrom_nil (start : Nat) : CountsFrom (α := α) start [] := rfl

/-- A single index has only to be the right one. -/
theorem countsFrom_of_length_le_one (hlength : given.length ≤ 1)
    (h : ∀ p ∈ given, p.1 = UInt32.ofNat start) : CountsFrom start given := by
  match given with
  | [] => rfl
  | [p] => exact congrArg (fun i => [i]) (h p (List.mem_singleton.mpr rfl))

theorem CountsFrom.append (h : CountsFrom start given)
    (hlater : CountsFrom (start + given.length) later) : CountsFrom start (given ++ later) := by
  unfold CountsFrom at h hlater ⊢
  rw [List.map_append, h, hlater, ← List.map_append, List.range'_append_1, List.length_append]

/-- Indices that have not wrapped around are 0, 1, 2, … -/
theorem CountsFrom.map_toNat (h : CountsFrom 0 given) (hlength : given.length < UInt32.size) :
    given.map (·.1.toNat) = List.range given.length := by
  calc given.map (·.1.toNat)
      = (given.map Prod.fst).map UInt32.toNat := by rw [List.map_map]; rfl
    _ = (List.range given.length).map (fun n => (UInt32.ofNat n).toNat) := by
      rw [h, List.map_map, List.range_eq_range']; rfl
    _ = List.range given.length := by
      refine (List.map_congr_left fun n hn => ?_).trans (List.map_id _)
      exact UInt32.toNat_ofNat_of_lt (Nat.lt_trans (List.mem_range.mp hn) hlength)

theorem CountsFrom.toNat_fst (h : CountsFrom 0 given) (hlength : given.length < UInt32.size)
    {k : Nat} {p : UInt32 × α} (hp : given[k]? = some p) : p.1.toNat = k := by
  have hindex : (given.map (·.1.toNat))[k]? = (List.range given.length)[k]? := by
    rw [h.map_toNat hlength]
  obtain ⟨hk, -⟩ := List.getElem?_eq_some_iff.mp hp
  rw [List.getElem?_map, hp, List.getElem?_range hk] at hindex
  exact Option.some.inj hindex

/-- **An index was given out for what is at its position, and for nothing else.** -/
theorem CountsFrom.mem_iff (h : CountsFrom 0 given) (hlength : given.length < UInt32.size)
    {i : UInt32} {x : α} : (i, x) ∈ given ↔ (given.map Prod.snd)[i.toNat]? = some x := by
  rw [List.getElem?_map, Option.map_eq_some_iff]
  constructor
  · intro hmem
    obtain ⟨k, hk⟩ := List.getElem?_of_mem hmem
    have hindex : i.toNat = k := h.toNat_fst hlength hk
    exact ⟨(i, x), by rw [hindex, hk], rfl⟩
  · rintro ⟨⟨j, y⟩, hp, rfl⟩
    have hindex : j = i := UInt32.toNat_inj.mp (h.toNat_fst hlength hp)
    rw [← hindex]
    exact List.mem_of_getElem? hp

/-- Nothing is at a position whose index was not given out. -/
theorem CountsFrom.getElem?_eq_none_iff (h : CountsFrom 0 given)
    (hlength : given.length < UInt32.size) {i : UInt32} :
    (given.map Prod.snd)[i.toNat]? = none ↔ i ∉ given.map Prod.fst := by
  rw [Option.eq_none_iff_forall_ne_some]
  constructor
  · intro hnone hmem
    obtain ⟨⟨j, x⟩, hp, rfl⟩ := List.mem_map.mp hmem
    exact hnone x ((h.mem_iff hlength).mp hp)
  · intro hmem x hx
    exact hmem (List.mem_map_of_mem ((h.mem_iff hlength).mpr hx))

end CountsFrom

/-! ## Runs -/

/-- **What one operation does to a list and its indices, a run does.** -/
theorem Module.given_run {α : Type} (Inv : Module → Prop) (entries : Module → List α)
    (given : Operation → Step Module (Except BuildError Outcome) → List (UInt32 × α))
    (hstep : ∀ {m : Module}, Inv m → ∀ op, Inv (m.perform op).state ∧
      entries (m.perform op).state = entries m ++ (given op (m.perform op)).map Prod.snd ∧
      CountsFrom (entries m).length (given op (m.perform op)))
    {m : Module} (h : Inv m) (ops : List Operation) :
    let all := (ops.zip (m.run ops)).flatMap fun p => given p.1 p.2
    Inv (m.after ops) ∧ entries (m.after ops) = entries m ++ all.map Prod.snd ∧
      CountsFrom (entries m).length all := by
  induction ops generalizing m with
  | nil => exact ⟨h, (List.append_nil _).symm, countsFrom_nil _⟩
  | cons op ops ih =>
    obtain ⟨hinv, hentries, hcounts⟩ := hstep h op
    obtain ⟨hafter, hentriesAfter, hcountsAfter⟩ := ih hinv
    rw [hentries, List.length_append, List.length_map] at hcountsAfter
    refine ⟨hafter, ?_, hcounts.append hcountsAfter⟩
    rw [after_cons, hentriesAfter, hentries, List.append_assoc, ← List.map_append]
    rfl

end WasmBuilder
