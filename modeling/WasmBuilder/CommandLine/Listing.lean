import WasmBuilder.Operator

/-!
# Listings of the table

The table of operators in two forms: lines of aligned columns, and JSON.
-/

namespace WasmBuilder.CommandLine

/-- The text filled up with blanks on the right, to at least `width` characters. -/
def padRight (width : Nat) (s : String) : String := s.pushn ' ' (width - s.length)

/-- An operator's row: name, opcode and kinds of immediates. -/
def row (o : Operator) : String :=
  padRight 32 o.name ++ " " ++ padRight 12 o.opcode.text ++ " "
    ++ " ".intercalate (o.kinds.map ImmediateKind.name)

/-- The rows of all operators, one a line. -/
def plainListing : String := String.join (Operator.all.map fun o => row o ++ "\n")

/-! ## JSON -/

/-- A JSON array with one element a line, at the given depth of nesting. -/
def jsonArray (depth : Nat) (elements : List String) : String :=
  if elements.isEmpty then "[]"
  else
    let inner := "".pushn ' ' (2 * depth + 2)
    let outer := "".pushn ' ' (2 * depth)
    "[\n" ++ ",\n".intercalate (elements.map (inner ++ ·)) ++ "\n" ++ outer ++ "]"

/-- A JSON string. No name in the table has a character that would need an escape. -/
def jsonString (s : String) : String := "\"" ++ s ++ "\""

/-- An operator as a JSON object, an element of the listing. -/
def jsonEntry (o : Operator) : String :=
  let opcode := (Binary.toBytes o.opcode).map fun b => toString b.toNat
  let kinds := o.kinds.map fun k => jsonString k.key
  "\x7b\n    \"name\": " ++ jsonString o.name
    ++ ",\n    \"opcode\": " ++ jsonArray 2 opcode
    ++ ",\n    \"immediates\": " ++ jsonArray 2 kinds
    ++ "\n  \x7d"

/-- The table as JSON. -/
def jsonListing : String := jsonArray 0 (Operator.all.map jsonEntry) ++ "\n"

end WasmBuilder.CommandLine
