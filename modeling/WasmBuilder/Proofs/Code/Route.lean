import WasmBuilder.Proofs.Code
import WasmBuilder.Proofs.Operator

/-!
# Three routes into a code

An instruction gets into a code by its type, as an operator with immediates, or as the operator's
name with immediates. The last two are checked. The check never fails for the immediates of an
instruction, and a name leads back to the operator that it was taken from, so the three routes can
be mixed at will: what a code holds in the end depends on the instructions alone.

The typed `select` is the one operator that its name does not lead to.
-/

namespace WasmBuilder

namespace Code

/-- The routes by which an instruction gets into a code. -/
inductive Route where
  /-- By its type. -/
  | typed
  /-- As its operator and immediates. -/
  | checked
  /-- As its operator's name and immediates. -/
  | named
deriving DecidableEq

/-- The operation that takes an instruction along a route. -/
def Route.operation : Route → Instruction → Operation
  | typed, i => .typed i
  | checked, i => .checked i.operator i.immediates
  | named, i => .named i.operator.name i.immediates

/-- Every route takes an instruction to the same place. -/
theorem perform_route (c : Code) {r : Route} {i : Instruction}
    (h : r = .named → i.operator ≠ .selectTyped) :
    c.perform (r.operation i) = ⟨c.push i, .ok (), []⟩ := by
  cases r with
  | typed => rfl
  | checked => exact append_parts c i
  | named =>
    rw [Route.operation, perform_named_of_some c i.immediates (Operator.ofName?_name (h rfl))]
    exact append_parts c i

/-- Routes chosen one by one for a list of instructions. -/
theorem performAll_routes (c : Code) (choices : List (Route × Instruction))
    (h : ∀ p ∈ choices, p.1 = .named → p.2.operator ≠ .selectTyped) :
    c.performAll (choices.map fun p => p.1.operation p.2)
      = ⟨⟨c.bytes ++ (choices.map Prod.snd).flatMap Instruction.toBytes,
          c.usesData || (choices.map Prod.snd).any fun i => i.operator.usesData⟩, .ok (), []⟩ := by
  induction choices generalizing c with
  | nil => simp [performAll]
  | cons p choices ih =>
    have hfirst : c.perform (p.1.operation p.2) = ⟨c.push p.2, .ok (), []⟩ :=
      perform_route c (h p List.mem_cons_self)
    have hrest := ih (c.push p.2) fun q hq => h q (List.mem_cons_of_mem p hq)
    rw [List.map_cons, performAll_cons_of_ok _ hfirst, hrest, push_eq, List.map_cons,
      List.flatMap_cons, List.any_cons, List.append_assoc, Bool.or_assoc]

/-- **The three routes agree.** Instructions are the operators with immediates of the right kinds.
Whatever routes are chosen for a list of them, from any code on, no operation fails, and the code
that is left is the same: its bytes and its mark are those of the code it started from and of the
instructions. The name of the typed `select` leads to the untyped one and is left out. A name leads
to an operator if and only if some row of the table has it, and then to the first such row. -/
theorem routes_agree :
    (∀ (o : Operator) (imms : List Immediate),
      (∃ i : Instruction, i.parts = (o, imms)) ↔ imms.map (·.kind) = o.kinds) ∧
    (∀ (c : Code) (choices : List (Route × Instruction)),
      (∀ p ∈ choices, p.1 = .named → p.2.operator ≠ .selectTyped) →
      let is := choices.map Prod.snd
      c.performAll (choices.map fun p => p.1.operation p.2)
        = ⟨⟨c.bytes ++ is.flatMap Instruction.toBytes,
            c.usesData || is.any fun i => i.operator.usesData⟩, .ok (), []⟩) ∧
    Operator.ofName? Operator.selectTyped.name = some .select ∧
    (∀ s : String, (Operator.ofName? s).isSome = true ↔ ∃ o ∈ Operator.all, o.name = s) ∧
    ∀ (s : String) (o : Operator), Operator.ofName? s = some o ↔
      ∃ before after, Operator.all = before ++ o :: after ∧ o.name = s ∧
        ∀ p ∈ before, p.name ≠ s := by
  refine ⟨fun o imms => Instruction.exists_parts_iff, performAll_routes,
    Operator.ofName?_selectTyped, fun s => Operator.isSome_ofName?_iff, fun s o => ?_⟩
  exact Operator.ofName?_eq_some_iff

/-- Both forms of `select` and an operator that uses data, by different routes. -/
def mixedRoutes : List (Route × Instruction) := [
  (.named, ⟨.brTable, ([⟨0⟩, ⟨1⟩], ⟨0⟩, ())⟩),
  (.checked, ⟨.dataDrop, (⟨1⟩, ())⟩),
  (.typed, ⟨.selectTyped, ([.i32], ())⟩),
  (.named, ⟨.select, ()⟩)]

theorem routes_agree_mixedRoutes :
    (∀ p ∈ mixedRoutes, p.1 = .named → p.2.operator ≠ .selectTyped) ∧
      empty.performAll (mixedRoutes.map fun p => p.1.operation p.2)
        = ⟨⟨[0x0e, 0x02, 0x00, 0x01, 0x00, 0xfc, 0x09, 0x01, 0x1c, 0x01, 0x7f, 0x1b], true⟩,
          .ok (), []⟩ := by
  have hnames : ∀ p ∈ mixedRoutes, p.1 = .named → p.2.operator ≠ .selectTyped := by decide
  obtain ⟨-, hroutes, -, -, -⟩ := routes_agree
  have hcode := hroutes empty mixedRoutes hnames
  have hbytes : (mixedRoutes.map Prod.snd).flatMap Instruction.toBytes
      = [0x0e, 0x02, 0x00, 0x01, 0x00, 0xfc, 0x09, 0x01, 0x1c, 0x01, 0x7f, 0x1b] := by
    decide +kernel
  dsimp only at hcode
  rw [hbytes] at hcode
  exact ⟨hnames, hcode⟩

end Code

end WasmBuilder
