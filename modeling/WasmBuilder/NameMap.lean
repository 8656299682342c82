/-!
# Maps from names

A map gives values to names, and no name has two of them. It is filled in one way only: a name that
is there already keeps its value. So where several values have the same name, the one that is put in
first remains, and it is the one that the name leads to (`NameMap.get?_foldl_insertIfNew`).
-/

namespace WasmBuilder

/-- Values by name. -/
structure NameMap (α : Type) where
  entries : List (String × α)
  /-- No name has two entries. -/
  nodup : (entries.map Prod.fst).Nodup

namespace NameMap

variable {α : Type}

/-- The map without names. -/
def empty : NameMap α := ⟨[], .nil⟩

/-- The value of a name, if it has one. -/
def get? (m : NameMap α) (name : String) : Option α := m.entries.lookup name

theorem not_mem_of_get?_eq_none {m : NameMap α} {name : String} (h : m.get? name = none) :
    name ∉ m.entries.map Prod.fst := by
  intro hmem
  obtain ⟨entry, hentry, rfl⟩ := List.mem_map.mp hmem
  simpa using List.lookup_eq_none_iff.mp h entry hentry

/-- Gives a value to a name that has none. -/
def insertIfNew (m : NameMap α) (name : String) (x : α) : NameMap α :=
  match h : m.get? name with
  | some _ => m
  | none => ⟨(name, x) :: m.entries, List.nodup_cons.mpr ⟨not_mem_of_get?_eq_none h, m.nodup⟩⟩

@[simp] theorem get?_empty (name : String) : (empty : NameMap α).get? name = none := rfl

/-- After an insertion a name has the value that it had, or else the one that was inserted for it. -/
theorem get?_insertIfNew (m : NameMap α) (name other : String) (x : α) :
    (m.insertIfNew name x).get? other
      = (m.get? other).or (if name = other then some x else none) := by
  unfold insertIfNew
  split
  · next y hy =>
    by_cases hname : name = other
    · subst hname
      rw [hy, Option.some_or]
    · rw [if_neg hname, Option.or_none]
  · next hnone =>
    show List.lookup other ((name, x) :: m.entries) = _
    rw [List.lookup_cons]
    by_cases hname : name = other
    · subst hname
      rw [hnone, if_pos rfl, Option.none_or]
      simp
    · rw [if_neg hname, Option.or_none]
      have hbeq : (other == name) = false := by simpa using Ne.symm hname
      rw [hbeq]
      rfl

/-- **A name leads to what was put in first.** When values are put in one after the other, each under
its own name, a name has the value that it had before, or else the first of these values that has
the name. -/
theorem get?_foldl_insertIfNew (name : α → String) (xs : List α) (m : NameMap α) (s : String) :
    (xs.foldl (fun m x => m.insertIfNew (name x) x) m).get? s
      = (m.get? s).or (xs.find? fun x => name x == s) := by
  induction xs generalizing m with
  | nil => rw [List.foldl_nil, List.find?_nil, Option.or_none]
  | cons x xs ih =>
    rw [List.foldl_cons, ih, get?_insertIfNew, Option.or_assoc, List.find?_cons]
    by_cases hname : name x = s
    · rw [if_pos hname, Option.some_or, beq_iff_eq.mpr hname]
    · rw [if_neg hname, Option.none_or, beq_eq_false_iff_ne.mpr hname]

end NameMap

end WasmBuilder
