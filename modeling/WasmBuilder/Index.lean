import WasmBuilder.Binary

/-!
# Indices

An index is a 32-bit number that points at something: a type, a function, a label, a lane. What
it points at is part of its type, so that an index of one kind is never taken for another.

Four kinds of thing share their numbering between imports and local definitions. These are the
index spaces, and exports and imports are sorted by them.
-/

namespace WasmBuilder

/-- What an index points at. -/
inductive Referent where
  | type
  | func
  | table
  | mem
  | global
  | localVar
  | label
  | lane
  | elem
  | data
  | exported
  | body
deriving DecidableEq

/-- An index of things of one kind. -/
structure Index (r : Referent) where
  val : UInt32
deriving DecidableEq

abbrev TypeIdx := Index .type
abbrev FuncIdx := Index .func
abbrev TableIdx := Index .table
abbrev MemIdx := Index .mem
abbrev GlobalIdx := Index .global
abbrev LocalIdx := Index .localVar
abbrev LabelIdx := Index .label
abbrev LaneIdx := Index .lane
abbrev ElemIdx := Index .elem
abbrev DataIdx := Index .data
abbrev ExportIdx := Index .exported
/-- The position of a body among the bodies; no index space of the format. -/
abbrev BodyIdx := Index .body

instance {r : Referent} : Binary (Index r) where writes i := [.index i.val]

/-- The index that the next entry of a list of entries gets: the number of entries before it. -/
def nextIndex {α : Type} (entries : List α) : UInt32 := UInt32.ofNat entries.length

/-! ## Index spaces -/

/-- The index spaces that imports and local definitions share. -/
inductive IndexSpace where
  | func
  | table
  | mem
  | global
deriving DecidableEq

namespace IndexSpace

/-- The byte that stands for the space in an import or an export. -/
def byte : IndexSpace → UInt8
  | func => 0x00
  | table => 0x01
  | mem => 0x02
  | global => 0x03

/-- The space's name in messages. -/
def name : IndexSpace → String
  | func => "function"
  | table => "table"
  | mem => "memory"
  | global => "global"

end IndexSpace

instance : Binary IndexSpace where writes s := [.byte s.byte]

end WasmBuilder
