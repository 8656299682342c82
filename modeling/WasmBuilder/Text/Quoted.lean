import WasmBuilder.Text.Printable

/-!
# Quoted text

A text between double quotes on one line. The quote and the backslash get a backslash in front,
the usual control characters have short names, and every other character that is not printable is
written by its code point in hexadecimal.
-/

namespace WasmBuilder.Text

/-- A code point in hexadecimal, in the form for characters that are not printable. -/
def escapedCodePoint (n : Nat) : List Char :=
  ['\\', 'u', '\x7b'] ++ Nat.toDigits 16 n ++ ['\x7d']

/-- A character as it stands between quotes. -/
def quotedChar (c : Char) : List Char :=
  if c = '"' then ['\\', '"']
  else if c = '\\' then ['\\', '\\']
  else if c = '\n' then ['\\', 'n']
  else if c = '\r' then ['\\', 'r']
  else if c = '\t' then ['\\', 't']
  else if c = '\x00' then ['\\', '0']
  else if isPrintable c then [c]
  else escapedCodePoint c.toNat

/-- The text between double quotes. -/
def quoted (s : String) : String :=
  String.ofList ('"' :: s.toList.flatMap quotedChar ++ ['"'])

end WasmBuilder.Text
