import QuizClient.Text.Numeral

/-!
# The shortest decimal that reads back as a double

A positive double is `m * 2 ^ q`, and every real that lies nearer to it than to
its neighbours reads back as it.  Among the decimals in that interval the
shortest is the one on the coarsest power-of-ten grid; only the two grid points
next to the double can lie in the interval, so testing those two on each grid is
enough.

## Main definitions

* `Interval`, `Interval.ofParts` — a double and the reals that read back as it,
  over one denominator.
* `Interval.onGrid?` — the point of one grid that reads back.
* `Interval.shortest` — the point of the coarsest such grid.
* `Layout` — where positional notation ends.
* `floatText` — the text of a double in a layout.
-/

namespace QuizClient.Decimal

/-! ### The interval of a double -/

/-- A double `mid / den` with the reals from `low / den` to `high / den` that read
back as it; the ends belong to the interval when `closed`. -/
structure Interval where
  /-- Lower end. -/
  low : Nat
  /-- The double itself. -/
  mid : Nat
  /-- Upper end. -/
  high : Nat
  /-- Common denominator. -/
  den : Nat
  /-- Whether the ends read back too. -/
  closed : Bool
  deriving Repr, DecidableEq

/-- The interval of `m * 2 ^ q`.  The lower neighbour is half as far away when
`m` is the least significand of its binade, which `narrow` says; a tie between
two doubles goes to the even significand. -/
def Interval.ofParts (m : Nat) (q : Int) (narrow : Bool) : Interval :=
  let scale := Nat.pow 2 (q - 2).toNat
  { low := (4 * m - if narrow then 1 else 2) * scale
    mid := 4 * m * scale
    high := (4 * m + 2) * scale
    den := Nat.pow 2 (2 - q).toNat
    closed := m % 2 == 0 }

/-- Whether `n / d` lies in the interval. -/
def Interval.contains (v : Interval) (n d : Nat) : Bool :=
  if v.closed then v.low * d ≤ n * v.den && n * v.den ≤ v.high * d
  else v.low * d < n * v.den && n * v.den < v.high * d

/-! ### Grids of powers of ten -/

/-- The point `d * 10 ^ k` of the grid `10 ^ k` that reads back and is nearest to
the double, given by `d`; of two equally near ones the even. -/
def Interval.onGrid? (v : Interval) (k : Int) : Option Nat :=
  let up := Nat.pow 10 k.toNat
  let down := Nat.pow 10 (-k).toNat
  let d := v.mid * down / (v.den * up)
  let below := v.contains (d * up) down
  let above := v.contains ((d + 1) * up) down
  let twice := 2 * v.mid * down
  let middle := (2 * d + 1) * (v.den * up)
  match below, above with
  | false, false => none
  | true, false => some d
  | false, true => some (d + 1)
  | true, true =>
    if twice < middle || (twice == middle && d % 2 == 0) then some d else some (d + 1)

/-- The power of ten of the first digit. -/
def Interval.magnitude (v : Interval) : Int :=
  ((Text.decimal (v.mid * Nat.pow 10 400 / v.den)).length : Int) - 401

/-- The first hit on the grids from `10 ^ k` down, as a multiple and its power of
ten. -/
def Interval.search (v : Interval) (k : Int) : Nat → Nat × Int
  | 0 => (v.mid * Nat.pow 10 (-k).toNat / (v.den * Nat.pow 10 k.toNat), k)
  | steps + 1 =>
    match v.onGrid? k with
    | some d => (d, k)
    | none => v.search (k - 1) steps

/-- The shortest decimal that reads back: a multiple and its power of ten.
Seventeen digits always suffice. -/
def Interval.shortest (v : Interval) : Nat × Int := v.search v.magnitude 17

/-! ### Writing -/

/-- The powers of ten of the first digit that are written positionally. -/
structure Layout where
  /-- The least of them. -/
  least : Int
  /-- The greatest of them. -/
  greatest : Int
  deriving Repr, DecidableEq

/-- `n` zeros. -/
def zeros (n : Nat) : List Char := List.replicate n '0'

/-- Digits without the zeros at their end. -/
def dropZeros (ds : List Char) : List Char := (ds.reverse.dropWhile (· == '0')).reverse

/-- Significant digits whose first has the power of ten `e`.  A point always has
a digit on both sides; an exponent always has a sign and no leading zero. -/
def Layout.write (layout : Layout) (ds : List Char) (e : Int) : List Char :=
  if layout.least ≤ e ∧ e ≤ layout.greatest then
    if e < 0 then "0.".toList ++ zeros (-e - 1).toNat ++ ds
    else
      let whole := e.toNat + 1
      if ds.length ≤ whole then ds ++ zeros (whole - ds.length) ++ ".0".toList
      else ds.take whole ++ '.' :: ds.drop whole
  else
    let fraction := if ds.length ≤ 1 then [] else '.' :: ds.drop 1
    let sign := if e < 0 then '-' else '+'
    ds.take 1 ++ fraction ++ 'e' :: sign :: Text.decimal e.natAbs

/-- The text of a double given by its bits. -/
def Layout.ofBits (layout : Layout) (bits : Nat) : List Char :=
  let sign := if bits / Nat.pow 2 63 % 2 = 1 then ['-'] else []
  let biased := bits / Nat.pow 2 52 % Nat.pow 2 11
  let fraction := bits % Nat.pow 2 52
  if biased = 2047 then
    if fraction = 0 then sign ++ "inf".toList else "NaN".toList
  else if biased = 0 ∧ fraction = 0 then sign ++ "0.0".toList
  else
    let m := if biased = 0 then fraction else Nat.pow 2 52 + fraction
    let q : Int := (max biased 1 : Nat) - 1075
    let v := Interval.ofParts m q (fraction = 0 && 1 < biased)
    let (d, k) := v.shortest
    let ds := Text.decimal d
    sign ++ layout.write (dropZeros ds) (k + ds.length - 1)

/-- Doubles are written positionally from `0.00001` up to sixteen whole digits. -/
def Layout.message : Layout := { least := -5, greatest := 15 }

/-- The text of a double in messages. -/
def floatText (f : Float) : List Char := Layout.message.ofBits f.toBits.toNat

end QuizClient.Decimal
