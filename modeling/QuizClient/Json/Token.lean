import QuizClient.Json.Number

/-!
# Tokens of a JSON text

A text is read one character at a time by a finite control with a little
memory.  Where the text stops being JSON the tokens end with `Token.bad`, so the
tokens before that place are still there for a reader that works in text order.

## Main definitions

* `Token` — punctuation and scalars.
* `joinUnits?` — the text that raw characters and escaped UTF-16 units spell.
* `Mode`, `Mode.step`, `Mode.finish` — the control of the lexer.
* `tokens` — the tokens of a text.
-/

namespace QuizClient.Json

/-- A token of a JSON text. -/
inductive Token where
  /-- An opening brace. -/
  | openBrace
  /-- A closing brace. -/
  | closeBrace
  /-- An opening bracket. -/
  | openBracket
  /-- A closing bracket. -/
  | closeBracket
  /-- A colon. -/
  | colon
  /-- A comma. -/
  | comma
  /-- The word `null`. -/
  | null
  /-- The word `true` or `false`. -/
  | bool (value : Bool)
  /-- A number. -/
  | number (value : Number)
  /-- A string, without its content when an escape leaves half of a surrogate
  pair. -/
  | string (content : Option String)
  /-- The place where the text stops being JSON. -/
  | bad
  deriving DecidableEq, Repr

/-! ### Strings -/

/-- Whether a unit is the first half of a surrogate pair. -/
def isHighHalf (u : Nat) : Bool := 0xD800 ≤ u && u ≤ 0xDBFF

/-- Whether a unit is the second half of a surrogate pair. -/
def isLowHalf (u : Nat) : Bool := 0xDC00 ≤ u && u ≤ 0xDFFF

/-- The character that the two halves of a surrogate pair spell. -/
def pairChar (high low : Nat) : Char :=
  Char.ofNat (0x10000 + (high - 0xD800) * 0x400 + (low - 0xDC00))

/-- The characters that code points and UTF-16 units spell behind a high half, if one
is due to be joined: it joins a low half right behind it, and any other half spells
nothing. -/
def joinFrom? : (due : Option Nat) → List Nat → Option (List Char)
  | none, [] => some []
  | some _, [] => none
  | none, u :: us =>
    if isHighHalf u then joinFrom? (some u) us
    else if isLowHalf u then none
    else (joinFrom? none us).map (Char.ofNat u :: ·)
  | some high, u :: us =>
    if isLowHalf u then (joinFrom? none us).map (pairChar high u :: ·) else none

/-- The characters that code points and UTF-16 units spell. -/
def joinUnits? (us : List Nat) : Option (List Char) := joinFrom? none us

/-- The character a one-letter escape stands for. -/
def escaped? : Char → Option Nat
  | '"' => some 0x22
  | '\\' => some 0x5C
  | '/' => some 0x2F
  | 'b' => some 0x08
  | 'f' => some 0x0C
  | 'n' => some 0x0A
  | 'r' => some 0x0D
  | 't' => some 0x09
  | _ => none

/-! ### Numbers -/

/-- The part of a number read so far. -/
structure Mantissa where
  /-- Whether a minus stood in front. -/
  negative : Bool
  /-- The digits read, as far as they fit 64 unsigned bits. -/
  significand : Nat
  /-- The power of ten that scales them. -/
  exponent : Int
  deriving DecidableEq, Repr

/-- The value of a decimal digit. -/
def digit? (c : Char) : Option Nat := if c.isDigit then some (c.toNat - '0'.toNat) else none

/-- One more digit behind the significand, when it still fits. -/
def Mantissa.push? (m : Mantissa) (d : Nat) : Option Mantissa :=
  let s := 10 * m.significand + d
  if s < UInt64.size then some { m with significand := s } else none

/-- The number of a mantissa that had neither point nor exponent and whose digits
all fit. -/
def Mantissa.integer (m : Mantissa) : Number :=
  if m.negative then
    if 0 < m.significand ∧ m.significand ≤ Nat.pow 2 63 then .integer (-(m.significand : Int))
    else .scaled true m.significand 0
  else .integer m.significand

/-- The number of any other mantissa, moved by a written exponent. -/
def Mantissa.scaled (m : Mantissa) (moved : Int) : Number :=
  .scaled m.negative m.significand (m.exponent + moved)

/-! ### The control -/

/-- What the lexer is in the middle of. -/
inductive Mode where
  /-- Between tokens. -/
  | gap
  /-- In a word, with the next letter, the letters behind it and the token the
  word makes. -/
  | word (next : Char) (left : List Char) (token : Token)
  /-- In a string, with its units so far, last first. -/
  | text (units : List Nat)
  /-- Behind a backslash. -/
  | escape (units : List Nat)
  /-- In a four-digit escape, with the digits still to come and their value. -/
  | code (units : List Nat) (left : Nat) (value : Nat)
  /-- Behind a minus. -/
  | minus
  /-- In the whole digits of a number. -/
  | whole (m : Mantissa)
  /-- In whole digits that no longer fit. -/
  | long (m : Mantissa)
  /-- Behind a point. -/
  | point (m : Mantissa)
  /-- In the fraction digits of a number. -/
  | fraction (m : Mantissa)
  /-- In fraction digits that no longer fit. -/
  | surplus (m : Mantissa)
  /-- Behind an exponent mark. -/
  | mark (m : Mantissa)
  /-- Behind the sign of an exponent. -/
  | sign (m : Mantissa) (down : Bool)
  /-- In the digits of an exponent. -/
  | power (m : Mantissa) (down : Bool) (value : Nat)
  /-- Behind the place where the text stopped being JSON. -/
  | stuck
  deriving DecidableEq, Repr

/-- Mode and tokens at the place where the text stops being JSON. -/
def fail : Mode × List Token := (.stuck, [.bad])

/-- Whether a character may stand between tokens. -/
def isGap (c : Char) : Bool := c == ' ' || c == '\n' || c == '\t' || c == '\r'

/-- A character between tokens. -/
def stepGap (c : Char) : Mode × List Token :=
  if isGap c then (.gap, [])
  else
    match c with
    | '\x7b' => (.gap, [.openBrace])
    | '\x7d' => (.gap, [.closeBrace])
    | '[' => (.gap, [.openBracket])
    | ']' => (.gap, [.closeBracket])
    | ':' => (.gap, [.colon])
    | ',' => (.gap, [.comma])
    | '"' => (.text [], [])
    | 'n' => (.word 'u' ['l', 'l'] .null, [])
    | 't' => (.word 'r' ['u', 'e'] (.bool true), [])
    | 'f' => (.word 'a' ['l', 's', 'e'] (.bool false), [])
    | '-' => (.minus, [])
    | c =>
      match digit? c with
      | some d => (.whole ⟨false, d, 0⟩, [])
      | none => fail

/-- A character behind a finished number. -/
def stepBehind (n : Number) (c : Char) : Mode × List Token :=
  let (mode, out) := stepGap c
  (mode, .number n :: out)

/-- Whether a character opens an exponent. -/
def isMark (c : Char) : Bool := c == 'e' || c == 'E'

/-- A digit behind the point. -/
def stepFraction (m : Mantissa) (d : Nat) : Mode × List Token :=
  match m.push? d with
  | some m => (.fraction { m with exponent := m.exponent - 1 }, [])
  | none => (.surplus m, [])

/-- One character: the next mode and the tokens that end with it. -/
def Mode.step : Mode → Char → Mode × List Token
  | .gap, c => stepGap c
  | .word next left token, c =>
    if c = next then
      match left with
      | [] => (.gap, [token])
      | l :: left => (.word l left token, [])
    else fail
  | .text units, c =>
    if c = '"' then (.gap, [.string ((joinUnits? units.reverse).map String.ofList)])
    else if c = '\\' then (.escape units, [])
    else if c.toNat < 0x20 then fail
    else (.text (c.toNat :: units), [])
  | .escape units, c =>
    if c = 'u' then (.code units 4 0, [])
    else
      match escaped? c with
      | some u => (.text (u :: units), [])
      | none => fail
  | .code units left value, c =>
    match Text.hexDigit? c with
    | some d =>
      let value := 16 * value + d
      if left ≤ 1 then (.text (value :: units), []) else (.code units (left - 1) value, [])
    | none => fail
  | .minus, c =>
    match digit? c with
    | some d => (.whole ⟨true, d, 0⟩, [])
    | none => fail
  | .whole m, c =>
    match digit? c with
    | some d =>
      if m.significand = 0 then fail
      else
        match m.push? d with
        | some m => (.whole m, [])
        | none => (.long { m with exponent := 1 }, [])
    | none =>
      if c = '.' then (.point m, [])
      else if isMark c then (.mark m, [])
      else stepBehind m.integer c
  | .long m, c =>
    if c.isDigit then (.long { m with exponent := m.exponent + 1 }, [])
    else if c = '.' then (.point m, [])
    else if isMark c then (.mark m, [])
    else stepBehind (m.scaled 0) c
  | .point m, c =>
    match digit? c with
    | some d => stepFraction m d
    | none => fail
  | .fraction m, c =>
    match digit? c with
    | some d => stepFraction m d
    | none => if isMark c then (.mark m, []) else stepBehind (m.scaled 0) c
  | .surplus m, c =>
    if c.isDigit then (.surplus m, [])
    else if isMark c then (.mark m, [])
    else stepBehind (m.scaled 0) c
  | .mark m, c =>
    if c = '+' then (.sign m false, [])
    else if c = '-' then (.sign m true, [])
    else
      match digit? c with
      | some d => (.power m false d, [])
      | none => fail
  | .sign m down, c =>
    match digit? c with
    | some d => (.power m down d, [])
    | none => fail
  | .power m down value, c =>
    match digit? c with
    | some d => (.power m down (10 * value + d), [])
    | none => stepBehind (m.scaled (if down then -(value : Int) else value)) c
  | .stuck, _ => (.stuck, [])

/-- The tokens that the end of the text finishes. -/
def Mode.finish : Mode → List Token
  | .gap | .stuck => []
  | .whole m => [.number m.integer]
  | .long m | .fraction m | .surplus m => [.number (m.scaled 0)]
  | .power m down value => [.number (m.scaled (if down then -(value : Int) else value))]
  | _ => [.bad]

/-! ### Texts -/

/-- The tokens of some characters read in a mode, behind the tokens `done` before
them, which stand last first. -/
def scan (mode : Mode) (done : List Token) : List Char → List Token
  | [] => done.reverse ++ mode.finish
  | c :: cs =>
    let (next, out) := mode.step c
    scan next (out.reverse ++ done) cs

/-- The tokens of a text. -/
def tokens (s : String) : List Token := scan .gap [] s.toList

@[simp] theorem scan_nil (mode : Mode) (done : List Token) :
    scan mode done [] = done.reverse ++ mode.finish := rfl

@[simp] theorem scan_cons (mode : Mode) (done : List Token) (c : Char) (cs : List Char) :
    scan mode done (c :: cs)
      = scan (mode.step c).1 ((mode.step c).2.reverse ++ done) cs := rfl

/-- Tokens found earlier stay in front. -/
theorem scan_eq_append (mode : Mode) (done : List Token) (cs : List Char) :
    scan mode done cs = done.reverse ++ scan mode [] cs := by
  induction cs generalizing mode done with
  | nil => simp
  | cons c cs ih =>
    rw [scan_cons, scan_cons, ih, ih _ ((mode.step c).2.reverse ++ [])]
    simp

end QuizClient.Json
