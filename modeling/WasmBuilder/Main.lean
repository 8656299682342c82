import WasmBuilder.CommandLine.Program

/-!
# Entry point

Runs `wasm-asm` on the real arguments, files and streams.
-/

namespace WasmBuilder.CommandLine

/-- The help text. -/
def helpText : String :=
  "wasm-asm 0.1.0\n" ++
  "assemble WebAssembly modules\n\n" ++
  "USAGE:\n    wasm-asm [FLAGS] <SUBCOMMAND>\n\n" ++
  "FLAGS:\n" ++
  "    -h, --help       Prints help information\n" ++
  "    -V, --version    Prints version information\n" ++
  "    -v               log more, repeat for even more\n\n" ++
  "SUBCOMMANDS:\n" ++
  "    demo <out>          write a module whose _start returns 5 + 10\n" ++
  "    opcode <name>       show one instruction\n" ++
  "    opcodes [--json]    list the instruction table\n"

/-- The failures that have a number of their own here. -/
def failureOf : IO.Error → FileFailure
  | .noFileOrDirectory .. => .os .notFound
  | .inappropriateType _ 21 _ => .os .isDirectory
  | .invalidArgument _ 36 _ => .os .nameTooLong
  | e => .other (toString e)

/-- Writes a file of the file system. -/
def writeFile (path : String) (bytes : Bytes) : IO (Except FileFailure Unit) := do
  try
    IO.FS.writeBinFile path (ByteArray.mk bytes.toArray)
    return .ok ()
  catch e =>
    return .error (failureOf e)

end WasmBuilder.CommandLine

open WasmBuilder.CommandLine in
/-- Runs the program on the arguments of the process. -/
def main (args : List String) : IO UInt32 := do
  match ← run writeFile args with
  | .usage code =>
    if code = 0 then IO.print helpText else IO.eprint helpText
    return code.toUInt32
  | .finished code stdout stderr =>
    IO.print stdout
    IO.eprint stderr
    return code.toUInt32
