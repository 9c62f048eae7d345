/-!
# Numerals

Whole numbers written in ASCII digits. A numeral may open with a sign and with
any number of zeros; it must fit the width it is read for.

## Main definitions

* `decimal`, `decimalInt` — the plain numeral of a number.
* `natural?` — an optional `+`, then digits, below `2 ^ 64`.
* `integer?` — an optional sign, then digits, within 64 signed bits.
* `hexDigit?` — the value of one hexadecimal digit.
-/

namespace QuizClient.Text

/-- The digits of a natural number, most significant first. -/
def decimal (n : Nat) : List Char := Nat.toDigits 10 n

/-- The digits of an integer, behind a `-` when it is negative. -/
def decimalInt : Int → List Char
  | .ofNat n => decimal n
  | .negSucc n => '-' :: decimal (n + 1)

/-- The number a run of digits stands for; a run must not be empty. -/
def digitsValue? (cs : List Char) : Option Nat :=
  if !cs.isEmpty && cs.all Char.isDigit then some (Nat.ofDigitChars 10 cs 0) else none

/-- A numeral without its optional `+`. -/
def dropPlus : List Char → List Char
  | '+' :: cs => cs
  | cs => cs

/-- The number a text writes with an optional `+` and digits, when it is below
`2 ^ 64`. -/
def natural? (s : String) : Option UInt64 := do
  let n ← digitsValue? (dropPlus s.toList)
  if h : n < UInt64.size then some (UInt64.ofNatLT n h) else none

/-- The number a text writes with an optional sign and digits, when it fits 64
signed bits. -/
def integer? (s : String) : Option Int64 := do
  let i : Int ←
    match s.toList with
    | '-' :: cs => (digitsValue? cs).map fun n => -(n : Int)
    | cs => (digitsValue? (dropPlus cs)).map fun n => (n : Int)
  if Int64.minValue.toInt ≤ i ∧ i ≤ Int64.maxValue.toInt then some (Int64.ofInt i) else none

/-- The value of a hexadecimal digit in either case. -/
def hexDigit? (c : Char) : Option Nat :=
  if c.isDigit then some (c.toNat - '0'.toNat)
  else if 'a' ≤ c && c ≤ 'f' then some (c.toNat - 'a'.toNat + 10)
  else if 'A' ≤ c && c ≤ 'F' then some (c.toNat - 'A'.toNat + 10)
  else none

end QuizClient.Text
