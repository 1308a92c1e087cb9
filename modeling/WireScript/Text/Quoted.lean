import WireScript.Text.Printable

/-! # Quoted text

How a path is shown inside a message: between double quotes, with backslash
escapes for the quote, the backslash and the four common controls, and with
hexadecimal escapes for every other character that has no glyph of its own.
-/

namespace WireScript.Text

/-- The hexadecimal digits of a code, in small letters. -/
def hexadecimal (n : Nat) : List Char := Nat.toDigits 16 n

/-- One character as it stands between the quotes. -/
def escape (c : Char) : List Char :=
  if c == '\x00' then ['\\', '0']
  else if c == '\t' then ['\\', 't']
  else if c == '\r' then ['\\', 'r']
  else if c == '\n' then ['\\', 'n']
  else if c == '\\' then ['\\', '\\']
  else if c == '"' then ['\\', '"']
  else if isPrintable c then [c]
  else ['\\', 'u', '\x7b'] ++ hexadecimal c.toNat ++ ['\x7d']

/-- A text between double quotes. -/
def quoted (text : String) : String :=
  String.ofList ('"' :: text.toList.flatMap escape ++ ['"'])

end WireScript.Text
