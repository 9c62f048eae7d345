import QuizClient.Decimal.Shortest

/-!
# Numbers of a JSON text

A number written without point and exponent that fits 64 bits is kept as an
integer.  Every other number is kept as the decimal it writes, as far as its
significand fits 64 unsigned bits, and stands for a double.

## Main definitions

* `Number` — an integer, or a decimal that stands for a double.
* `Number.double?` — the double a number stands for, `none` beyond the largest.
-/

namespace QuizClient.Json

/-- A number of a JSON text. -/
inductive Number where
  /-- An integer from `-2 ^ 63` up to `2 ^ 64 - 1`; zero has no sign. -/
  | integer (value : Int)
  /-- `significand * 10 ^ exponent`, below zero when `negative`. -/
  | scaled (negative : Bool) (significand : Nat) (exponent : Int)
  deriving DecidableEq, Repr

namespace Number

/-! ### Doubles -/

/-- The double nearest to `10 ^ k`. -/
def tenTo (k : Nat) : Float := Float.ofScientific 1 false k

/-- `f * 10 ^ e`, `none` beyond the largest double.  A power of ten that is a
double costs one rounding; a smaller one is divided out in steps of `10 ^ 308`,
and no significand below `2 ^ 64` survives two of them. -/
def scale (f : Float) (e : Int) : (steps : Nat) → Option Float
  | 0 => some f
  | steps + 1 =>
    if 0 ≤ e ∧ e ≤ 308 then
      let g := f * tenTo e.toNat
      if g.isInf then none else some g
    else if -308 ≤ e ∧ e < 0 then some (f / tenTo (-e).toNat)
    else if f == 0 then some f
    else if 0 ≤ e then none
    else scale (f / tenTo 308) (e + 308) steps

/-- The double a number stands for, `none` beyond the largest. -/
def double? : Number → Option Float
  | .integer i => some (Float.ofInt i)
  | .scaled negative significand exponent =>
    (scale (Float.ofNat significand) exponent 4).map fun f => if negative then -f else f

/-- Whether a number stands for anything: an integer always does, a decimal when
it lies within the doubles. -/
def inRange : Number → Bool
  | .integer _ => true
  | n@(.scaled ..) => n.double?.isSome

/-! ### Text -/

/-- The text of a number: the digits of an integer, the shortest text of a
double, and `null` beyond the largest double, for which there is no number. -/
def chars : Number → List Char
  | .integer i => Text.decimalInt i
  | n@(.scaled ..) => (n.double?.map Decimal.floatText).getD "null".toList

end Number

end QuizClient.Json
