import WasmBuilder.Module.Basic
import WasmBuilder.Reader.Instruction

/-!
# Reading modules

`Contents` is what a binary module says: the entries of its sections, with instructions as bytes.
`Contents.read` takes it from the bytes of a module, and `Module.contents` is what a module under
construction would say.

`walk` reads less: it goes from section to section without looking into them.
-/

namespace WasmBuilder

/-- A global as it is written: its type and the bytes of its expression. -/
structure GlobalContents where
  type : GlobalType
  init : Bytes
deriving DecidableEq

/-- An element segment as it is written. -/
structure ElementContents where
  table : TableIdx
  offset : Bytes
  funcs : List FuncIdx
deriving DecidableEq

/-- A body as it is written. -/
structure BodyContents where
  locals : List LocalGroup
  code : Bytes
deriving DecidableEq

/-- A data segment as it is written; an active one has a memory and the bytes of an offset. -/
structure DataContents where
  place : Option (MemIdx × Bytes)
  bytes : Bytes
deriving DecidableEq

/-- What a binary module says. -/
structure Contents where
  types : List FuncType
  imports : List Import
  functions : List TypeIdx
  tables : List TableType
  memories : List MemType
  globals : List GlobalContents
  exports : List Export
  start : Option FuncIdx
  elements : List ElementContents
  dataCount : Option UInt32
  bodies : List BodyContents
  data : List DataContents
deriving DecidableEq

/-! ## What a module under construction says -/

/-- What an active data segment says about its place. -/
def DataMode.place : DataMode → Option (MemIdx × Bytes)
  | .passive => none
  | .active mem offset => some (mem, offset.bytes)

/-- What a module says once it is written. -/
def Module.contents (m : Module) : Contents where
  types := m.types
  imports := m.imports.entries
  functions := m.functions
  tables := m.tables
  memories := m.memories
  globals := m.globals.map fun g => ⟨g.type, g.init.bytes⟩
  exports := m.exports
  start := m.start
  elements := m.elements.map fun s => ⟨s.table, s.offset.bytes, s.funcs⟩
  dataCount := m.dataCount
  bodies := m.bodies.map fun b => ⟨b.locals, b.code.bytes⟩
  data := m.data.map fun s => ⟨s.mode.place, s.bytes⟩

namespace Reader

/-! ## Entries -/

/-- A global. -/
def global : Reader GlobalContents := return ⟨← globalType, ← expression⟩

/-- An export. -/
def exportEntry : Reader Export := return ⟨← name, ← space, ← u32⟩

/-- An element segment, in the form for the first table or in the form that names its table. -/
def element : Reader ElementContents := do
  match ← u32 with
  | 0 => return ⟨⟨0⟩, ← expression, ← list index⟩
  | 2 =>
    let table ← index
    let offset ← expression
    expect [0x00]
    return ⟨table, offset, ← list index⟩
  | _ => failure

/-- A body, which takes up exactly the number of bytes that stands in front of it. -/
def body : Reader BodyContents := do
  let size ← length
  within size (return ⟨← list localGroup, ← remaining⟩)

/-- A data segment: active in the first memory, passive, or active in a memory that is named. -/
def data : Reader DataContents := do
  match ← u32 with
  | 0 => return ⟨some (⟨0⟩, ← expression), ← list byte⟩
  | 1 => return ⟨none, ← list byte⟩
  | 2 => return ⟨some (← index, ← expression), ← list byte⟩
  | _ => failure

/-! ## Sections -/

/-- The contents of the section with an id if it is the next one, and `absent` otherwise. -/
def sectionOr {α : Type} (id : UInt8) (absent : α) (r : Reader α) : Reader α :=
  fun lengths bs =>
    match bs with
    | [] => some (absent, [])
    | b :: rest =>
      if b = id then (do within (← length) r : Reader α) lengths rest
      else some (absent, b :: rest)

/-- A module: the header, then the sections in their order. -/
def contents : Reader Contents := do
  expect [0x00, 0x61, 0x73, 0x6d, 0x01, 0x00, 0x00, 0x00]
  let types ← sectionOr 1 [] (list funcType)
  let imports ← sectionOr 2 [] (list importEntry)
  let functions ← sectionOr 3 [] (list index)
  let tables ← sectionOr 4 [] (list tableType)
  let memories ← sectionOr 5 [] (list memType)
  let globals ← sectionOr 6 [] (list global)
  let exports ← sectionOr 7 [] (list exportEntry)
  let start ← sectionOr 8 none (some <$> index)
  let elements ← sectionOr 9 [] (list element)
  let dataCount ← sectionOr 12 none (some <$> u32)
  let bodies ← sectionOr 10 [] (list body)
  let data ← sectionOr 11 [] (list data)
  return ⟨types, imports, functions, tables, memories, globals, exports, start, elements,
    dataCount, bodies, data⟩

end Reader

/-- What the bytes of a module say, if they are one. -/
def Contents.read (lengths : Lengths) (bs : Bytes) : Option Contents :=
  Reader.contents.readAll lengths bs

/-! ## Walking from section to section -/

/-- At most `fuel` sections that take up all bytes, each with its id byte and its contents. -/
def walkWithin : (fuel : Nat) → Bytes → Option (List (UInt8 × Bytes))
  | _, [] => some []
  | 0, _ :: _ => none
  | fuel + 1, id :: bs => do
    let (size, bs) ← Leb128.readUnsigned bs
    if size ≤ bs.length then
      return (id, bs.take size) :: (← walkWithin fuel (bs.drop size))
    else none

/-- The sections of a module after its header of eight bytes. -/
def walk (bs : Bytes) : Option (List (UInt8 × Bytes)) := walkWithin bs.length (bs.drop 8)

end WasmBuilder
