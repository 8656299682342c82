import WasmBuilder.Event
import WasmBuilder.FunctionBody

/-!
# Sections

A section has an id, contents and a size. The size is announced before the contents are written
and decides whether the section is written at all: one of size zero is left out.

A section of entries counts as empty when it has no entries, although its contents then still are
the single byte of the count zero.
-/

namespace WasmBuilder

/-- A section of a module. -/
structure Section where
  id : SectionId
  /-- The announced number of bytes; for all sections of this library, that of the contents, or
  zero when there is nothing to say. -/
  size : Nat
  /-- The writes that make up the contents. -/
  content : List Write

namespace Section

/-- The section with its id and size in front, or nothing if its size is zero. -/
def framed (s : Section) : List Write :=
  if s.size = 0 then [] else .byte s.id.byte :: .len s.size :: s.content

/-- What the log says about the section when it is written. -/
def event (s : Section) : Event :=
  if s.size = 0 then .sectionSkipped s.id else .sectionWritten s.id s.size

/-- A section made of a list of entries. -/
def ofEntries {α : Type} [Binary α] (id : SectionId) (entries : List α) : Section where
  id := id
  size := if entries.isEmpty then 0 else Binary.size entries
  content := Binary.writes entries

/-- The section of bodies, each with its length in front. -/
def ofBodies (bodies : List FunctionBody) : Section :=
  ofEntries .code (bodies.map Framed.mk)

/-- The section of the start function. -/
def ofStart : Option FuncIdx → Section
  | none => ⟨.start, 0, []⟩
  | some f => ⟨.start, Binary.size f, Binary.writes f⟩

/-- The section that announces the number of data segments. -/
def ofDataCount : Option UInt32 → Section
  | none => ⟨.dataCount, 0, []⟩
  | some n => ⟨.dataCount, Leb128.unsignedSize n.toNat, [.u32 n]⟩

/-! ## Filling sections -/

/-- Puts an entry behind the others and gives its index. -/
def addEntry {α : Type} (entries : List α) (x : α) : Step (List α) UInt32 :=
  ⟨entries ++ [x], nextIndex entries, []⟩

@[simp] theorem state_addEntry {α : Type} (entries : List α) (x : α) :
    (addEntry entries x).state = entries ++ [x] := rfl

@[simp] theorem result_addEntry {α : Type} (entries : List α) (x : α) :
    (addEntry entries x).result = nextIndex entries := rfl

/-- The entry with an index, if there is one. -/
def entry? {α : Type} (entries : List α) (i : UInt32) : Option α := entries[i.toNat]?

/-- Sets the start function and gives the one that it replaces. -/
def setStart (start : Option FuncIdx) (f : FuncIdx) : Step (Option FuncIdx) (Option FuncIdx) :=
  ⟨some f, start, []⟩

@[simp] theorem state_setStart (start : Option FuncIdx) (f : FuncIdx) :
    (setStart start f).state = some f := rfl

/-- Sets the number of data segments, whether it was set before or not. -/
def setDataCount (_ : Option UInt32) (n : UInt32) : Step (Option UInt32) Unit := ⟨some n, (), []⟩

end Section

end WasmBuilder
