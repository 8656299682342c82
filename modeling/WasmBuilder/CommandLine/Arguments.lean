/-!
# Arguments

The arguments of the program `wasm-asm`: what they ask for, or that they cannot be understood.

* Arguments are read from left to right, and the first one that asks for help, asks for the
  version or makes no sense decides.
* The first plain argument names the command. The flag `-v` may stand before and after it, and
  the number of times it is given after the command counts, if it is given there at all.
* Short flags can be joined behind one dash. Long flags may have more than two dashes, and a
  value given to one with `=` is not looked at.
* After `--` all arguments are plain. A single dash is plain anyway.
-/

namespace WasmBuilder.CommandLine

/-- The commands. -/
inductive CommandName where
  /-- Writes a small module. -/
  | demo
  /-- Lists the table of operators. -/
  | opcodes
  /-- Shows one row of the table. -/
  | opcode
deriving DecidableEq

namespace CommandName

/-- The command's name on the command line. -/
def text : CommandName → String
  | demo => "demo"
  | opcodes => "opcodes"
  | opcode => "opcode"

/-- The command with a name. -/
def ofText? (s : String) : Option CommandName := [demo, opcodes, opcode].find? fun c => c.text == s

/-- Whether the command takes a plain argument, which it then needs. -/
def takesOperand : CommandName → Bool
  | demo => true
  | opcodes => false
  | opcode => true

end CommandName

/-- A command with all that it needs. -/
inductive Command where
  | demo (out : String)
  | opcodes (json : Bool)
  | opcode (name : String)
deriving DecidableEq

/-- What the arguments ask for. -/
inductive Request where
  /-- A command, with the number of times that more log was asked for. -/
  | run (verbosity : Nat) (command : Command)
  /-- The help text. -/
  | help
  /-- The version, of the program or of one of its commands. -/
  | version (command : Option CommandName)
  /-- The arguments make no sense. -/
  | misuse
deriving DecidableEq

/-! ## Flags -/

/-- What a flag asks for. -/
inductive Flag where
  | verbose
  | json
  | help
  | version
  | unknown
deriving DecidableEq

/-- Drops the leading dashes of an argument. -/
def undashed (arg : List Char) : List Char := arg.dropWhile (· == '-')

/-- The flag of an argument that starts with two dashes. Only `opcodes` knows `--json`. -/
def longFlag (command : Option CommandName) (arg : List Char) : Flag :=
  match String.ofList ((undashed arg).takeWhile (· != '=')) with
  | "help" => .help
  | "version" => .version
  | "json" => if command = some .opcodes then .json else .unknown
  | _ => .unknown

/-- The flag of one letter. -/
def shortFlag : Char → Flag
  | 'v' => .verbose
  | 'h' => .help
  | 'V' => .version
  | _ => .unknown

/-- An argument, as it is understood before any `--`. -/
inductive Argument where
  /-- A plain argument. -/
  | plain (text : String)
  /-- Flags, one for each letter if they are short. -/
  | flags (fs : List Flag)
  /-- The mark after which all arguments are plain. -/
  | separator
deriving DecidableEq

/-- Understands one argument. -/
def Argument.ofText (command : Option CommandName) (s : String) : Argument :=
  match s.toList with
  | ['-', '-'] => .separator
  | '-' :: '-' :: rest => .flags [longFlag command ('-' :: '-' :: rest)]
  | '-' :: c :: rest => .flags ((c :: rest).map shortFlag)
  | _ => .plain s

/-! ## Reading -/

/-- What has been read so far: how often each repeatable thing was given, and the operand. -/
structure Given where
  verbose : Nat
  json : Nat
  operand : Option String
deriving DecidableEq

/-- Nothing has been read. -/
def Given.nothing : Given := ⟨0, 0, none⟩

/-- Takes flags in, up to the first that decides the request. -/
def Given.addFlags (command : Option CommandName) (g : Given) : List Flag → Except Request Given
  | [] => .ok g
  | .verbose :: fs => { g with verbose := g.verbose + 1 }.addFlags command fs
  | .json :: fs => { g with json := g.json + 1 }.addFlags command fs
  | .help :: _ => .error .help
  | .version :: _ => .error (.version command)
  | .unknown :: _ => .error .misuse

/-- Takes in a plain argument of a command. -/
def Given.addOperand (command : CommandName) (g : Given) (s : String) : Except Request Given :=
  if command.takesOperand && g.operand.isNone then .ok { g with operand := some s }
  else .error .misuse

/-- The request of a command whose arguments have all been read. -/
def Given.request (g : Given) (command : CommandName) (outer : Nat) : Request :=
  let verbosity := if g.verbose = 0 then outer else g.verbose
  match command, g.operand with
  | .demo, some out => .run verbosity (.demo out)
  | .opcode, some name => .run verbosity (.opcode name)
  | .opcodes, none => if g.json ≤ 1 then .run verbosity (.opcodes (g.json = 1)) else .misuse
  | _, _ => .misuse

/-- Takes in arguments that are all plain. -/
def readPlain (command : CommandName) (g : Given) : List String → Except Request Given
  | [] => .ok g
  | s :: rest => do readPlain command (← g.addOperand command s) rest

/-- Takes in the arguments after the name of a command. -/
def readCommand (command : CommandName) (g : Given) : List String → Except Request Given
  | [] => .ok g
  | s :: rest =>
    match Argument.ofText (some command) s with
    | .separator => readPlain command g rest
    | .flags fs => do readCommand command (← g.addFlags (some command) fs) rest
    | .plain s => do readCommand command (← g.addOperand command s) rest

/-- The answer to `help` and what stands after it: help exists for one command at a time. -/
def helpRequest : List String → Request
  | [] => .help
  | [s] => if s = "help" || (CommandName.ofText? s).isSome then .help else .misuse
  | _ => .misuse

/-- Understands the arguments, given how often `-v` has been seen. -/
def readArguments (verbose : Nat) : List String → Request
  | [] => .misuse
  | s :: rest =>
    match Argument.ofText none s with
    | .separator => .misuse
    | .flags fs =>
      match { Given.nothing with verbose }.addFlags none fs with
      | .ok g => readArguments g.verbose rest
      | .error r => r
    | .plain s =>
      match CommandName.ofText? s with
      | some command =>
        match readCommand command .nothing rest with
        | .ok g => g.request command verbose
        | .error r => r
      | none => if s = "help" then helpRequest rest else .misuse

/-- What the arguments ask for. -/
def Request.ofArguments (args : List String) : Request := readArguments 0 args

/-! ## Where `-v` counts -/

example : Request.ofArguments ["-vv", "demo", "-v", "x"] = .run 1 (.demo "x") := by decide +kernel
example : Request.ofArguments ["-vv", "demo", "x"] = .run 2 (.demo "x") := by decide +kernel
example : Request.ofArguments ["opcode", "--", "-v"] = .run 0 (.opcode "-v") := by decide +kernel

end WasmBuilder.CommandLine
