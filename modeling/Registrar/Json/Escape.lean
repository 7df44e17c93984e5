/-!
# Strings in JSON

How the characters of a string are written between the quotes of a JSON string: quotes and
backslashes after a backslash, the three common controls by a letter, all other controls by their
code point, everything else as it is.
-/

namespace Registrar.Json

/-- A control character: U+0000 to U+001F and U+007F to U+009F. -/
def isControl (c : Char) : Bool := c.toNat < 0x20 || (0x7F ≤ c.toNat && c.toNat < 0xA0)

/-- A code point as four hexadecimal digits, in lower case. -/
def fourDigits (n : Nat) : List Char := (Nat.toDigits 16 n).leftpad 4 '0'

/-- One character between the quotes. -/
def escapeChar (c : Char) : List Char :=
  match c with
  | '"' => ['\\', '"']
  | '\\' => ['\\', '\\']
  | '\n' => ['\\', 'n']
  | '\r' => ['\\', 'r']
  | '\t' => ['\\', 't']
  | c => if isControl c then '\\' :: 'u' :: fourDigits c.toNat else [c]

/-- The text between the quotes. -/
def escape (text : String) : String := String.ofList (text.toList.flatMap escapeChar)

def quote (text : String) : String := "\"" ++ escape text ++ "\""

end Registrar.Json
