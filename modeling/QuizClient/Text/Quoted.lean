import QuizClient.Text.Hidden

/-!
# Quoted text

Two ways to write a text between quotation marks. `Quoted.json` is a JSON
string. `Quoted.message` is for a message to a reader: what does not show by
itself is written as its code point in braces.
-/

namespace QuizClient.Text.Quoted

/-- A hexadecimal digit in lower case. -/
def hexDigit (n : Nat) : Char :=
  if n < 10 then Char.ofNat ('0'.toNat + n) else Char.ofNat ('a'.toNat + (n - 10))

/-! ### JSON strings -/

/-- One character of a JSON string: quotation mark, backslash and the characters
below the space are escaped, by a letter where there is one. -/
def jsonChar (c : Char) : List Char :=
  if c = '"' then ['\\', '"']
  else if c = '\\' then ['\\', '\\']
  else if c = '\x08' then ['\\', 'b']
  else if c = '\t' then ['\\', 't']
  else if c = '\n' then ['\\', 'n']
  else if c = '\x0c' then ['\\', 'f']
  else if c = '\r' then ['\\', 'r']
  else if c.toNat < 0x20 then
    ['\\', 'u', '0', '0', hexDigit (c.toNat / 16), hexDigit (c.toNat % 16)]
  else [c]

/-- A text as a JSON string. -/
def json (s : String) : List Char := '"' :: s.toList.flatMap jsonChar ++ ['"']

/-! ### Messages -/

/-- One character of a text quoted in a message. -/
def messageChar (c : Char) : List Char :=
  if c = '\x00' then ['\\', '0']
  else if c = '\t' then ['\\', 't']
  else if c = '\r' then ['\\', 'r']
  else if c = '\n' then ['\\', 'n']
  else if c = '\\' then ['\\', '\\']
  else if c = '"' then ['\\', '"']
  else if isHidden c then
    ['\\', 'u', '\x7b'] ++ Nat.toDigits 16 c.toNat ++ ['\x7d']
  else [c]

/-- A text between quotation marks, for a message. -/
def message (s : String) : List Char := '"' :: s.toList.flatMap messageChar ++ ['"']

end QuizClient.Text.Quoted
