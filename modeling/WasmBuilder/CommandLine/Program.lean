import WasmBuilder.CommandLine.Arguments
import WasmBuilder.CommandLine.Listing
import WasmBuilder.Module.Basic
import WasmBuilder.Text.Quoted

/-!
# The program `wasm-asm`

What the program does with its arguments, apart from the writing of files, which is left to a
function it is given.
-/

namespace WasmBuilder.CommandLine

/-- What the program leaves behind, files apart. -/
inductive Response where
  /-- The help text, after a request for it or after a misuse. -/
  | usage (code : UInt8)
  /-- An exit code and what was printed. -/
  | finished (code : UInt8) (stdout stderr : String)
deriving DecidableEq

/-! ## Texts -/

/-- The least level that is shown, by how often `-v` was given. -/
def shownLevel : Nat → Level
  | 0 => .warn
  | 1 => .debug
  | _ => .trace

/-- The log as it is printed. -/
def logText (verbosity : Nat) (log : List Event) : String :=
  String.join ((logLines (shownLevel verbosity) log).map (· ++ "\n"))

/-- The text of a failure of the operating system. -/
def osText (f : OsFailure) : String :=
  s!"Os \x7b code: {f.code}, kind: {f.kind}, message: {Text.quoted f.description} \x7d"

/-- The text of an error that ends the program. -/
def errorText : BuildError → String
  | .file (.os failure) => s!"Io({osText failure})"
  | .file (.other description) =>
    s!"Io(Custom \x7b kind: Other, error: {Text.quoted description} \x7d)"
  | e => s!"ErrorMessage \x7b msg: {Text.quoted e.message} \x7d"

/-- The text of a version. Commands have none of their own. -/
def versionText : Option CommandName → String
  | none => "wasm-asm 0.1.0\n"
  | some command => s!"wasm-asm-{command.text} \n"

/-- The response to a run that ended with a log and, perhaps, an error. -/
def respond (verbosity : Nat) (log : List Event) : Except BuildError String → Response
  | .ok stdout => .finished 0 stdout (logText verbosity log)
  | .error e => .finished 1 "" (logText verbosity log ++ s!"Error: {errorText e}\n")

/-! ## Commands -/

/-- Instructions that add five and ten. -/
def demoCode : Code :=
  Code.empty
    |>.push ⟨.i32Const, (5, ())⟩
    |>.push ⟨.i32Const, (10, ())⟩
    |>.push ⟨.i32Add, ()⟩
    |>.push ⟨.endBlock, ()⟩

/-- A module with one exported function, which adds five and ten. -/
def demoModule : Step Module (Except BuildError ExportIdx) :=
  (Module.empty.declareType [] [.i32]).andThen fun m type =>
    (m.defineFunction type (.ofLocals [] demoCode)).andThen fun m defined =>
      match defined with
      | .error e => ⟨m, .error e, []⟩
      | .ok f => (m.addExport ⟨"_start", .func, f.val⟩).andThen fun m i => ⟨m, .ok i, []⟩

/-- Shows one row of the table. -/
def showOperator (name : String) : Except BuildError String :=
  match Operator.ofName? name with
  | some o => .ok (row o ++ "\n")
  | none => .error (.unknownInstruction name)

variable {μ : Type → Type} [Monad μ]

/-- Writes the small module to a file. -/
def runDemo (write : String → Bytes → μ (Except FileFailure Unit)) (verbosity : Nat)
    (out : String) : μ Response := do
  let built := demoModule
  match built.result with
  | .error e => return respond verbosity built.log (.error e)
  | .ok _ =>
    let saved ← built.state.save (write out)
    let log := built.log ++ saved.log
    match saved.result with
    | .error e => return respond verbosity log (.error e)
    | .ok () => return respond verbosity (log ++ [.fileWritten out]) (.ok "")

/-- Carries out a command. -/
def runCommand (write : String → Bytes → μ (Except FileFailure Unit)) (verbosity : Nat) :
    Command → μ Response
  | .demo out => runDemo write verbosity out
  | .opcodes true => return respond verbosity [] (.ok jsonListing)
  | .opcodes false => return respond verbosity [.tableListed Operator.all.length] (.ok plainListing)
  | .opcode name => return respond verbosity [] (showOperator name)

/-- Runs the program. Files are written by `write`. -/
def run (write : String → Bytes → μ (Except FileFailure Unit)) (args : List String) :
    μ Response :=
  match Request.ofArguments args with
  | .run verbosity command => runCommand write verbosity command
  | .help => return .usage 0
  | .version command => return .finished 0 (versionText command) ""
  | .misuse => return .usage 1

end WasmBuilder.CommandLine
