import WasmBuilder.Entry
import WasmBuilder.Import
import WasmBuilder.Section

/-!
# Sections under construction

A section that stands alone is filled by operations of its own. Ten kinds of sections hold a list of
entries, to which entries are added at the end. The imports among them keep count of their index
spaces and can be frozen. The other two kinds hold at most one number, which is set.

A `SectionState` is a section of any kind with what it holds. A `SectionOperation` says by its type
which section it is for, so that no section is asked for what it cannot do.
-/

namespace WasmBuilder

/-- A section of one of the twelve kinds, with what it holds. -/
inductive SectionState where
  | types (entries : List FuncType)
  | imports (table : ImportTable)
  | functions (entries : List TypeIdx)
  | tables (entries : List TableType)
  | memories (entries : List MemType)
  | globals (entries : List Global)
  | exports (entries : List Export)
  | start (func : Option FuncIdx)
  | elements (entries : List ElementSegment)
  | dataCount (n : Option UInt32)
  | bodies (entries : List FunctionBody)
  | data (entries : List DataSegment)
deriving DecidableEq

/-- An operation on the section with an id. -/
inductive SectionOperation : SectionId → Type where
  | addType (t : FuncType) : SectionOperation .type
  | lookupType (i : TypeIdx) : SectionOperation .type
  | addImport (i : Import) : SectionOperation .imports
  | freezeImports : SectionOperation .imports
  /-- Asks how many imports an index space has. -/
  | importCount (space : IndexSpace) : SectionOperation .imports
  /-- Asks for the import at a position among all imports. -/
  | lookupImport (position : UInt32) : SectionOperation .imports
  | addFunction (type : TypeIdx) : SectionOperation .function
  | addTable (type : TableType) : SectionOperation .table
  | addMemory (type : MemType) : SectionOperation .memory
  | addGlobal (g : Global) : SectionOperation .global
  | addExport (e : Export) : SectionOperation .exports
  | lookupExport (i : ExportIdx) : SectionOperation .exports
  | setStart (f : FuncIdx) : SectionOperation .start
  | addElement (s : ElementSegment) : SectionOperation .element
  | setDataCount (n : UInt32) : SectionOperation .dataCount
  | addBody (b : FunctionBody) : SectionOperation .code
  | addData (s : DataSegment) : SectionOperation .data

/-- What an operation on a section gives back. -/
inductive SectionOutcome where
  /-- Nothing but its effect. -/
  | done
  /-- The index of a new entry. -/
  | index (i : UInt32)
  | count (n : UInt32)
  | type (t : Option FuncType)
  | imported (i : Option Import)
  | exported (e : Option Export)
  /-- The start function that was replaced. -/
  | replaced (f : Option FuncIdx)
deriving DecidableEq

namespace SectionState

/-- The kind of the section. -/
def id : SectionState → SectionId
  | types _ => .type
  | imports _ => .imports
  | functions _ => .function
  | tables _ => .table
  | memories _ => .memory
  | globals _ => .global
  | exports _ => .exports
  | start _ => .start
  | elements _ => .element
  | dataCount _ => .dataCount
  | bodies _ => .code
  | data _ => .data

/-- The section as it is written. -/
def toSection : SectionState → Section
  | types entries => .ofEntries .type entries
  | imports table => .ofEntries .imports table.entries
  | functions entries => .ofEntries .function entries
  | tables entries => .ofEntries .table entries
  | memories entries => .ofEntries .memory entries
  | globals entries => .ofEntries .global entries
  | exports entries => .ofEntries .exports entries
  | start func => .ofStart func
  | elements entries => .ofEntries .element entries
  | dataCount n => .ofDataCount n
  | bodies entries => .ofBodies entries
  | data entries => .ofEntries .data entries

/-- Whether the section holds nothing. -/
def isEmpty : SectionState → Bool
  | types entries => entries.isEmpty
  | imports table => table.entries.isEmpty
  | functions entries => entries.isEmpty
  | tables entries => entries.isEmpty
  | memories entries => entries.isEmpty
  | globals entries => entries.isEmpty
  | exports entries => entries.isEmpty
  | start func => func.isNone
  | elements entries => entries.isEmpty
  | dataCount n => n.isNone
  | bodies entries => entries.isEmpty
  | data entries => entries.isEmpty

/-- Adds an entry to a section that is made from its entries by `make`. -/
def add {α : Type} (make : List α → SectionState) (entries : List α) (x : α) :
    Step SectionState (Except BuildError SectionOutcome) :=
  (Section.addEntry entries x).map make fun i => .ok (.index i)

/-- Carries out an operation. -/
def perform : (s : SectionState) → SectionOperation s.id →
    Step SectionState (Except BuildError SectionOutcome)
  | types entries, .addType t => add types entries t
  | types entries, .lookupType i => ⟨types entries, .ok (.type (Section.entry? entries i.val)), []⟩
  | imports table, .addImport i => (table.add i).map imports fun result => result.map .index
  | imports table, .freezeImports => table.freeze.map imports fun _ => .ok .done
  | imports table, .importCount space => ⟨imports table, .ok (.count (table.count space)), []⟩
  | imports table, .lookupImport position =>
    ⟨imports table, .ok (.imported (Section.entry? table.entries position)), []⟩
  | functions entries, .addFunction type => add functions entries type
  | tables entries, .addTable type => add tables entries type
  | memories entries, .addMemory type => add memories entries type
  | globals entries, .addGlobal g => add globals entries g
  | exports entries, .addExport e => add exports entries e
  | exports entries, .lookupExport i =>
    ⟨exports entries, .ok (.exported (Section.entry? entries i.val)), []⟩
  | start func, .setStart f => (Section.setStart func f).map start fun old => .ok (.replaced old)
  | elements entries, .addElement s => add elements entries s
  | dataCount n, .setDataCount k => (Section.setDataCount n k).map dataCount fun _ => .ok .done
  | bodies entries, .addBody b => add bodies entries b
  | data entries, .addData s => add data entries s

end SectionState

end WasmBuilder
