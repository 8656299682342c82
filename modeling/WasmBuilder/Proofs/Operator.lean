import Mathlib.Data.List.Chain
import Mathlib.Data.List.Nodup
import Mathlib.Data.List.Sort
import WasmBuilder.Reader.Instruction

/-!
# The table of operators, read backwards

An opcode belongs to at most one operator, and no opcode of a single byte is the lead byte of a
longer one. Together these say that the bytes of an opcode give the operator back as soon as they
have been read.

A name belongs to at most one operator as well, except that the typed `select` has the name of the
untyped one, which comes first in the table and is what the name leads to.

The table has 437 rows, so nothing here compares rows in pairs. The table lists the operators in
the order of their opcodes, which is checked from each row to the next, and everything else follows
from the order. Their names are put in order first, as numbers.
-/

namespace WasmBuilder

/-- Opcodes as numbers, in the order of the table: by their first byte, then by the number that
follows it. -/
def Opcode.rank : Opcode → Nat
  | byte b => b.toNat
  | extended lead sub => lead.toNat * UInt32.size + sub.toNat

namespace Operator

/-- The table lists the operators in the order in which they were declared. -/
theorem all_eq_map_ofNat : all = (List.range 437).map ofNat := by decide +kernel

theorem ctorIdx_lt (o : Operator) : o.ctorIdx < 437 := by cases o <;> decide

/-- **Every operator is in the table.** -/
theorem mem_all (o : Operator) : o ∈ all := by
  rw [all_eq_map_ofNat, List.mem_map]
  exact ⟨o.ctorIdx, List.mem_range.mpr o.ctorIdx_lt, o.ofNat_ctorIdx⟩

/-- Opcodes go up from row to row. -/
theorem isChain_rank : (all.map fun o => o.opcode.rank).IsChain (· < ·) := by decide +kernel

/-- **No two operators share an opcode.** -/
theorem opcode_injective {o p : Operator} (h : o.opcode = p.opcode) : o = p := by
  have hlt := List.isChain_iff_pairwise.mp isChain_rank
  have hnodup : (all.map fun o => o.opcode.rank).Nodup := hlt.imp Nat.ne_of_lt
  exact List.inj_on_of_nodup_map hnodup (mem_all o) (mem_all p) (congrArg Opcode.rank h)

/-- An operator is found by its opcode. -/
theorem ofOpcode?_opcode (o : Operator) : ofOpcode? o.opcode = some o := by
  obtain ⟨p, hp⟩ := Option.isSome_iff_exists.mp
    (List.find?_isSome (p := fun p => p.opcode == o.opcode) |>.mpr ⟨o, mem_all o, by simp⟩)
  have hop : p.opcode = o.opcode := by simpa using List.find?_some hp
  rw [ofOpcode?, hp, opcode_injective hop]

/-! ## Lead bytes -/

/-- Whether an opcode is a single byte below the lead bytes, or starts with a lead byte. -/
def keepsToLeads : Opcode → Bool
  | .byte b => b < 0xfc
  | .extended lead _ => 0xfc ≤ lead

/-- Lead bytes start at `0xfc`, and all single bytes lie below. -/
theorem keepsToLeads_opcode (o : Operator) : keepsToLeads o.opcode = true := by
  have hall : all.all (fun o => keepsToLeads o.opcode) = true := by decide +kernel
  exact List.all_eq_true.mp hall o (mem_all o)

/-- **A lead byte is no opcode by itself.** -/
theorem ofOpcode?_lead {o : Operator} {lead : UInt8} {sub : UInt32}
    (h : o.opcode = .extended lead sub) : ofOpcode? (.byte lead) = none := by
  have hlead := keepsToLeads_opcode o
  rw [h] at hlead
  refine List.find?_eq_none.mpr fun p _ hp => ?_
  have hbyte := keepsToLeads_opcode p
  rw [show p.opcode = .byte lead by simpa using hp] at hbyte
  simp only [keepsToLeads, decide_eq_true_eq] at hlead hbyte
  exact absurd hbyte (UInt8.not_lt.mpr hlead)

/-! ## Names -/

/-- The bytes of the operator's name as one number. -/
def nameKey (o : Operator) : Nat := (Bytes.ofText o.name).foldl (fun n b => n * 256 + b.toNat) 0

/-- Once in order, the names go up from one to the next. -/
theorem isChain_nameKey :
    (((all.erase selectTyped).map nameKey).insertionSort (· ≤ ·)).IsChain (· < ·) := by
  decide +kernel

/-- **No two operators share a name**, the typed `select` apart. -/
theorem name_injective {o p : Operator} (ho : o ≠ selectTyped) (hp : p ≠ selectTyped)
    (h : o.name = p.name) : o = p := by
  have hlt := List.isChain_iff_pairwise.mp isChain_nameKey
  have hnodup : ((all.erase selectTyped).map nameKey).Nodup :=
    (List.perm_insertionSort _ _).nodup_iff.mp (hlt.imp Nat.ne_of_lt)
  have hkey : nameKey o = nameKey p := by rw [nameKey, nameKey, h]
  exact List.inj_on_of_nodup_map hnodup ((List.mem_erase_of_ne ho).mpr (mem_all o))
    ((List.mem_erase_of_ne hp).mpr (mem_all p)) hkey

/-- A name leads to the first row that has it, since no later row takes its place. -/
theorem ofName?_eq_find? (s : String) : ofName? s = all.find? fun o => o.name == s := by
  unfold ofName? byName
  rw [NameMap.get?_foldl_insertIfNew name, NameMap.get?_empty]
  exact Option.none_or

theorem isSome_ofName?_iff {s : String} : (ofName? s).isSome = true ↔ ∃ o ∈ all, o.name = s := by
  simp [ofName?_eq_find?, List.find?_isSome]

theorem ofName?_eq_some_iff {s : String} {o : Operator} :
    ofName? s = some o ↔
      ∃ before after, all = before ++ o :: after ∧ o.name = s ∧ ∀ p ∈ before, p.name ≠ s := by
  rw [ofName?_eq_find?, List.find?_eq_some_iff_append]
  constructor
  · rintro ⟨hname, before, after, hall, hbefore⟩
    refine ⟨before, after, hall, by simpa using hname, fun p hp => ?_⟩
    simpa using hbefore p hp
  · rintro ⟨before, after, hall, hname, hbefore⟩
    refine ⟨by simpa using hname, before, after, hall, fun p hp => ?_⟩
    simpa using hbefore p hp

theorem ofName?_selectTyped : ofName? selectTyped.name = some select := by
  rw [ofName?_eq_find?]
  decide +kernel

/-- **An operator is found by its name**, the typed `select` apart. -/
theorem ofName?_name {o : Operator} (h : o ≠ selectTyped) : ofName? o.name = some o := by
  obtain ⟨p, hp⟩ := Option.isSome_iff_exists.mp (isSome_ofName?_iff.mpr ⟨o, mem_all o, rfl⟩)
  obtain ⟨-, -, -, hname, -⟩ := ofName?_eq_some_iff.mp hp
  have hne : p ≠ selectTyped := by
    rintro rfl
    rw [← hname, ofName?_selectTyped] at hp
    cases hp
  rw [hp, name_injective hne h hname]

end Operator

end WasmBuilder
