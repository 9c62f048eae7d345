import QuizClient.Json.Token
import QuizClient.Text.Quoted

/-!
# Reading back a written string

A string written with the fewest escapes is one token, and the token holds the
string.  What follows the string is read as if it stood alone.

## Main results

* `joinUnits?_map_toNat` — characters spell themselves.
* `scan_quoted` — a written string is its own token.
-/

namespace QuizClient.Json

open Text

/-! ### Joining -/

theorem isHighHalf_toNat (c : Char) : isHighHalf c.toNat = false := by
  have h := c.valid
  simp only [isHighHalf, Bool.and_eq_false_iff, decide_eq_false_iff_not]
  simp only [UInt32.isValidChar, Nat.isValidChar, Char.toNat] at *
  omega

theorem isLowHalf_toNat (c : Char) : isLowHalf c.toNat = false := by
  have h := c.valid
  simp only [isLowHalf, Bool.and_eq_false_iff, decide_eq_false_iff_not]
  simp only [UInt32.isValidChar, Nat.isValidChar, Char.toNat] at *
  omega

/-- Characters spell themselves: none of them is half of a surrogate pair. -/
theorem joinUnits?_map_toNat (s : List Char) : joinUnits? (s.map Char.toNat) = some s := by
  induction s with
  | nil => rfl
  | cons c s ih => simp_all [joinUnits?, joinFrom?, isHighHalf_toNat, isLowHalf_toNat]

/-! ### Scanning -/

theorem hexDigit?_hexDigit : ∀ n < 16, hexDigit? (Quoted.hexDigit n) = some n := by decide

/-- A character that needs no escape is a unit of its own. -/
theorem step_text_plain {us : List Nat} {c : Char} (hq : c ≠ '"') (hb : c ≠ '\\')
    (hc : ¬c.toNat < 0x20) : (Mode.text us).step c = (.text (c.toNat :: us), []) := by
  simp [Mode.step, hq, hb, hc]

/-- A written character is one unit, whether it is written by itself or as an
escape. -/
theorem scan_jsonChar (us : List Nat) (done : List Token) (c : Char) (rest : List Char) :
    scan (.text us) done (Quoted.jsonChar c ++ rest)
      = scan (.text (c.toNat :: us)) done rest := by
  unfold Quoted.jsonChar
  split
  · next h => subst h; rfl
  split
  · next h => subst h; rfl
  split
  · next h => subst h; rfl
  split
  · next h => subst h; rfl
  split
  · next h => subst h; rfl
  split
  · next h => subst h; rfl
  split
  · next h => subst h; rfl
  split
  · next h =>
    have hhigh : c.toNat / 16 < 16 := by omega
    have hlow : c.toNat % 16 < 16 := by omega
    have hzero : hexDigit? '0' = some 0 := rfl
    simp [Mode.step, hexDigit?_hexDigit _ hhigh, hexDigit?_hexDigit _ hlow, hzero]
    congr 3
    omega
  · next hq hb _ _ _ _ _ hc =>
    simp only [List.cons_append, List.nil_append, scan_cons, step_text_plain hq hb hc,
      List.reverse_nil]

/-- Written characters are their units, in reverse. -/
theorem scan_flatMap_jsonChar (us : List Nat) (done : List Token) (s rest : List Char) :
    scan (.text us) done (s.flatMap Quoted.jsonChar ++ rest)
      = scan (.text ((s.map Char.toNat).reverse ++ us)) done rest := by
  induction s generalizing us with
  | nil => rfl
  | cons c s ih =>
    simp only [List.flatMap_cons, List.append_assoc, scan_jsonChar, ih]
    simp

/-- A written string is its own token, whatever follows it. -/
theorem scan_quoted (done : List Token) (s : String) (rest : List Char) :
    scan .gap done (Quoted.json s ++ rest) = scan .gap (.string (some s) :: done) rest := by
  have hopen : Mode.gap.step '"' = (.text [], []) := rfl
  simp only [Quoted.json, List.cons_append, List.append_assoc, scan_cons, hopen]
  rw [List.reverse_nil, List.nil_append, scan_flatMap_jsonChar]
  simp [Mode.step, joinUnits?_map_toNat]

end QuizClient.Json
