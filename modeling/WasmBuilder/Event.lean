import WasmBuilder.Error
import WasmBuilder.SectionId
import WasmBuilder.Types.Text

/-!
# Events

What the library reports while it works. An event has a level and a text; a log is a list of
events in the order in which they happened. A log line is the level, a dash and the text.
-/

namespace WasmBuilder

/-! ## Levels -/

/-- How much an event matters, from least to most. -/
inductive Level where
  | trace
  | debug
  | info
  | warn
deriving DecidableEq

namespace Level

/-- The level's name in log lines. -/
def name : Level → String
  | trace => "TRACE"
  | debug => "DEBUG"
  | info => "INFO"
  | warn => "WARN"

/-- The level's place in the order. -/
def rank : Level → Nat
  | trace => 0
  | debug => 1
  | info => 2
  | warn => 3

end Level

/-! ## Events -/

/-- Something that happened. -/
inductive Event where
  /-- An import was added and got an index in its space. -/
  | imported (module field : String) (space : IndexSpace) (index : UInt32)
  /-- The imports were frozen with this many entries. -/
  | importsFrozen (entries : Nat)
  /-- A function type was declared. -/
  | typeDeclared (index : TypeIdx) (params results : List ValType)
  /-- A function was declared with a type. -/
  | functionDeclared (index : FuncIdx) (type : TypeIdx)
  /-- A table was declared. -/
  | tableDeclared (index : TableIdx) (type : TableType)
  /-- A memory was declared. -/
  | memoryDeclared (index : MemIdx) (type : MemType)
  /-- A global was declared. -/
  | globalDeclared (index : GlobalIdx) (type : GlobalType)
  /-- A body with this many bytes of instructions was added. -/
  | bodyAdded (index : BodyIdx) (size : Nat)
  /-- The start function was replaced by another. -/
  | startReplaced (old new : FuncIdx)
  /-- A section without contents was left out. -/
  | sectionSkipped (id : SectionId)
  /-- A section with this many bytes of contents was written. -/
  | sectionWritten (id : SectionId) (size : Nat)
  /-- A module was serialized although it fails its check. -/
  | inconsistent (error : BuildError)
  /-- A module was serialized to this many bytes. -/
  | serialized (size : Nat)
  /-- A module was written to a file. -/
  | fileWritten (path : String)
  /-- The table of operators was listed. -/
  | tableListed (rows : Nat)
deriving DecidableEq

namespace Event

/-- How much the event matters. -/
def level : Event → Level
  | imported .. => .trace
  | importsFrozen _ => .debug
  | typeDeclared .. => .trace
  | functionDeclared .. => .trace
  | tableDeclared .. => .trace
  | memoryDeclared .. => .trace
  | globalDeclared .. => .trace
  | bodyAdded .. => .trace
  | startReplaced .. => .debug
  | sectionSkipped _ => .trace
  | sectionWritten .. => .trace
  | inconsistent _ => .warn
  | serialized _ => .debug
  | fileWritten _ => .info
  | tableListed _ => .debug

/-- The text of the event. -/
def text : Event → String
  | imported module field space index => s!"import {module}.{field} is {space.name} {index}"
  | importsFrozen entries => s!"freezing imports with {entries} entries"
  | typeDeclared index params results =>
    s!"declared {index.text}: {ValType.listText params} -> {ValType.listText results}"
  | functionDeclared index type => s!"declared {index.text} with {type.text}"
  | tableDeclared index type => s!"declared {index.text}: {type.text}"
  | memoryDeclared index type => s!"declared {index.text}: {type.text}"
  | globalDeclared index type => s!"declared {index.text}: {type.text}"
  | bodyAdded index size => s!"added {index.text}, {size} bytes of instructions"
  | startReplaced old new => s!"start function {old.text} replaced by {new.text}"
  | sectionSkipped id => s!"skipping empty {id.name} section"
  | sectionWritten id size => s!"writing {id.name} section, {size} bytes"
  | inconsistent error => s!"serializing an inconsistent module: {error.message}"
  | serialized size => s!"serialized module, {size} bytes"
  | fileWritten path => s!"wrote {path}"
  | tableListed rows => s!"listed {rows} instructions"

/-- The log line of the event. -/
def line (e : Event) : String := s!"{e.level.name} - {e.text}"

end Event

/-- The log lines of the events that matter at least as much as the given level. -/
def logLines (level : Level) (events : List Event) : List String :=
  (events.filter fun e => level.rank ≤ e.level.rank).map Event.line

/-! ## Steps -/

/-- The outcome of an operation on a state: the state after it, its result and its log. -/
structure Step (σ α : Type) where
  state : σ
  result : α
  log : List Event

/-- Goes on from the state and result of a first step; the logs are joined. -/
def Step.andThen {σ α β : Type} (first : Step σ α) (next : σ → α → Step σ β) : Step σ β :=
  let second := next first.state first.result
  ⟨second.state, second.result, first.log ++ second.log⟩

/-- A step of one state as a step of another that is made from it, with its result in another
form. -/
def Step.map {σ τ α β : Type} (s : Step σ α) (state : σ → τ) (result : α → β) : Step τ β :=
  ⟨state s.state, result s.result, s.log⟩

end WasmBuilder
