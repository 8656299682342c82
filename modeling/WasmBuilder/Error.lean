import WasmBuilder.Operator

/-!
# Errors

What can go wrong while a module is built, and the message that each error has.
-/

namespace WasmBuilder

/-- A refusal of the operating system: its number, the name of its kind and its description. -/
structure OsFailure where
  code : Nat
  kind : String
  description : String
deriving DecidableEq

namespace OsFailure

/-- A part of the path does not exist. -/
def notFound : OsFailure := ⟨2, "NotFound", "No such file or directory"⟩

/-- The path leads to a directory. -/
def isDirectory : OsFailure := ⟨21, "IsADirectory", "Is a directory"⟩

/-- The path, or a part of it, is too long. -/
def nameTooLong : OsFailure := ⟨36, "InvalidFilename", "File name too long"⟩

/-- The failure in a message. -/
def text (f : OsFailure) : String := s!"{f.description} (os error {f.code})"

end OsFailure

/-- Why a file could not be written. -/
inductive FileFailure where
  /-- The operating system refused. -/
  | os (failure : OsFailure)
  /-- Any other reason, by its description. -/
  | other (description : String)
deriving DecidableEq

/-- The failure in a message. -/
def FileFailure.text : FileFailure → String
  | os failure => failure.text
  | other description => description

/-- What can go wrong while a module is built. -/
inductive BuildError where
  /-- An import was asked for after the imports were frozen. -/
  | frozenSpace (space : IndexSpace) (module field : String)
  /-- The number of functions differs from the number of bodies. -/
  | misalignedBodies (functions bodies : Nat)
  /-- The immediates differ from those in the table, first at `position`. -/
  | immediateMismatch (operator : Operator) (position : Nat) (expected found : Option ImmediateKind)
  /-- No operator has this name. -/
  | unknownInstruction (name : String)
  /-- The module could not be written to a file. -/
  | file (failure : FileFailure)
deriving DecidableEq

namespace BuildError

/-- The name of what stands, or should stand, in one place of a list of immediates. -/
def slotName : Option ImmediateKind → String
  | some kind => kind.name
  | none => "nothing"

/-- The message of an error. -/
def message : BuildError → String
  | frozenSpace space module field =>
    s!"cannot import {module}.{field}: the {space.name} index space is frozen"
  | misalignedBodies functions bodies =>
    s!"{functions} function entries do not match {bodies} code bodies"
  | immediateMismatch operator position expected found =>
    s!"{operator.name}: immediate {position} should be {slotName expected}, got {slotName found}"
  | unknownInstruction name => s!"unknown instruction: {name}"
  | file failure => s!"io error: {failure.text}"

/-- Whether the error passes on an error from outside the library. -/
def hasCause : BuildError → Bool
  | file _ => true
  | _ => false

end BuildError

end WasmBuilder
