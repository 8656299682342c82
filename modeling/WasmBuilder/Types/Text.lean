import WasmBuilder.Types

/-!
# Types as text

The form in which indices and types stand in log lines: a constructor's name followed by its
contents, with named fields in braces.
-/

namespace WasmBuilder

/-- The name of an index type. -/
def Referent.indexName : Referent → String
  | type => "TypeIdx"
  | func => "FuncIdx"
  | table => "TableIdx"
  | mem => "MemIdx"
  | global => "GlobalIdx"
  | localVar => "LocalIdx"
  | label => "LabelIdx"
  | lane => "LaneIdx"
  | elem => "ElemIdx"
  | data => "DataIdx"
  | exported => "ExportIdx"
  | body => "CodeIdx"

/-- An index with the name of its type. -/
def Index.text {r : Referent} (i : Index r) : String := s!"{r.indexName}({i.val})"

/-- A value type's name. -/
def ValType.text : ValType → String
  | i32 => "I32"
  | i64 => "I64"
  | f32 => "F32"
  | f64 => "F64"
  | v128 => "V128"
  | funcRef => "FuncRef"
  | externRef => "ExternRef"

/-- Value types in brackets, with commas between. -/
def ValType.listText (ts : List ValType) : String :=
  "[" ++ ", ".intercalate (ts.map ValType.text) ++ "]"

/-- A reference type has the name of the value type. -/
def RefType.text (t : RefType) : String := t.toValType.text

/-- A bound that may be missing. -/
def Limits.maxText : Option UInt32 → String
  | none => "None"
  | some max => s!"Some({max})"

/-- Limits with both bounds. -/
def Limits.text (l : Limits) : String :=
  s!"Limits \x7b min: {l.min}, max: {Limits.maxText l.max} \x7d"

/-- A table type with its fields. -/
def TableType.text (t : TableType) : String :=
  s!"TableType \x7b elem: {t.elem.text}, limits: {t.limits.text} \x7d"

/-- A memory type with its field. -/
def MemType.text (t : MemType) : String := s!"MemType \x7b limits: {t.limits.text} \x7d"

/-- A global type with its fields. -/
def GlobalType.text (t : GlobalType) : String :=
  s!"GlobalType \x7b val_type: {t.val.text}, mutable: {t.mutable} \x7d"

example : TableType.text ⟨.funcRef, ⟨1, some 2⟩⟩
    = "TableType \x7b elem: FuncRef, limits: Limits \x7b min: 1, max: Some(2) \x7d \x7d" := by
  decide +kernel

end WasmBuilder
