import WasmBuilder.Event

/-!
# Imports

An import names something that the module takes from outside. The table of imports numbers them
within their index spaces: imports take the low indices, so all of them have to come before the
first local definition. Freezing the table makes sure of that, since a frozen table takes no more
imports and the indices of local definitions cannot be shifted.
-/

namespace WasmBuilder

/-- What is imported. -/
inductive ImportDesc where
  | func (type : TypeIdx)
  | table (type : TableType)
  | mem (type : MemType)
  | global (type : GlobalType)
deriving DecidableEq

/-- The index space in which the import gets its index. -/
def ImportDesc.space : ImportDesc → IndexSpace
  | func _ => .func
  | table _ => .table
  | mem _ => .mem
  | global _ => .global

instance : Binary ImportDesc where
  writes d := .byte d.space.byte :: match d with
    | .func type => Binary.writes type
    | .table type => Binary.writes type
    | .mem type => Binary.writes type
    | .global type => Binary.writes type

/-- An import: the names of a module and of a field of it, and what the field is. -/
structure Import where
  module : String
  field : String
  desc : ImportDesc
deriving DecidableEq

instance : Binary Import where writes i := .name i.module :: .name i.field :: Binary.writes i.desc

/-! ## Numbers per space -/

/-- A number for each index space. -/
structure SpaceCounts where
  func : UInt32
  table : UInt32
  mem : UInt32
  global : UInt32
deriving DecidableEq

namespace SpaceCounts

/-- Zero for each space. -/
def zero : SpaceCounts := ⟨0, 0, 0, 0⟩

/-- The number of one space. -/
def get (c : SpaceCounts) : IndexSpace → UInt32
  | .func => c.func
  | .table => c.table
  | .mem => c.mem
  | .global => c.global

/-- One more in one space. -/
def bump (c : SpaceCounts) : IndexSpace → SpaceCounts
  | .func => { c with func := c.func + 1 }
  | .table => { c with table := c.table + 1 }
  | .mem => { c with mem := c.mem + 1 }
  | .global => { c with global := c.global + 1 }

end SpaceCounts

/-! ## The table of imports -/

/-- The imports of a module. -/
structure ImportTable where
  /-- The imports, in the order in which they were added. -/
  entries : List Import
  /-- How many imports each space has. -/
  counts : SpaceCounts
  /-- Whether no more imports are taken. -/
  frozen : Bool
deriving DecidableEq

namespace ImportTable

/-- The table without imports. -/
def empty : ImportTable := ⟨[], .zero, false⟩

/-- The number of imports in a space, which is the first index of a local definition there. -/
def count (t : ImportTable) (space : IndexSpace) : UInt32 := t.counts.get space

/-- Adds an import and gives its index in its space, unless the table is frozen. -/
def add (t : ImportTable) (i : Import) : Step ImportTable (Except BuildError UInt32) :=
  let space := i.desc.space
  if t.frozen then ⟨t, .error (.frozenSpace space i.module i.field), []⟩
  else
    let index := t.count space
    ⟨{ t with entries := t.entries ++ [i], counts := t.counts.bump space }, .ok index,
      [.imported i.module i.field space index]⟩

/-- Takes no more imports from here on. Only the first time is worth a log line. -/
def freeze (t : ImportTable) : Step ImportTable Unit :=
  if t.frozen then ⟨t, (), []⟩
  else ⟨{ t with frozen := true }, (), [.importsFrozen t.entries.length]⟩

end ImportTable

end WasmBuilder
