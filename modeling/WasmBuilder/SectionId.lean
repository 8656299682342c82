/-!
# Section ids

A module is a sequence of sections, each of which starts with the byte of its id.
-/

namespace WasmBuilder

/-- The kinds of sections, in the order of their bytes. -/
inductive SectionId where
  | custom
  | type
  | imports
  | function
  | table
  | memory
  | global
  | exports
  | start
  | element
  | code
  | data
  | dataCount
deriving DecidableEq

namespace SectionId

/-- The byte that a section starts with. -/
def byte : SectionId → UInt8
  | custom => 0
  | type => 1
  | imports => 2
  | function => 3
  | table => 4
  | memory => 5
  | global => 6
  | exports => 7
  | start => 8
  | element => 9
  | code => 10
  | data => 11
  | dataCount => 12

/-- The section's name in log lines. -/
def name : SectionId → String
  | custom => "Custom"
  | type => "Type"
  | imports => "Import"
  | function => "Function"
  | table => "Table"
  | memory => "Memory"
  | global => "Global"
  | exports => "Export"
  | start => "Start"
  | element => "Element"
  | code => "Code"
  | data => "Data"
  | dataCount => "DataCount"

/-- All ids, in the order of their bytes. -/
def all : List SectionId :=
  [custom, type, imports, function, table, memory, global, exports, start, element, code, data,
    dataCount]

/-- Ids are ordered by their bytes. -/
instance : Ord SectionId where compare a b := compare a.byte b.byte

end SectionId

end WasmBuilder
