/-!
# Blank characters, trimming and words

Blank means the Unicode property White_Space, which is wider than ASCII space:
it takes in the no-break and ideographic spaces and the line and paragraph
separators, and leaves out the zero-width characters.

## Main definitions

* `isBlank` — membership in White_Space.
* `trim` — the text without the blanks at its two ends.
* `pieces`, `words` — the runs between blanks, and those of them that hold
  something.
* `splitFirst` — a text cut at its first blank.
-/

namespace QuizClient.Text

/-- Whether a character has the property White_Space. -/
def isBlank (c : Char) : Bool :=
  let n := c.toNat
  (0x09 ≤ n && n ≤ 0x0D) || n == 0x20 || n == 0x85 || n == 0xA0 || n == 0x1680
    || (0x2000 ≤ n && n ≤ 0x200A) || n == 0x2028 || n == 0x2029 || n == 0x202F
    || n == 0x205F || n == 0x3000

/-! ### Trimming -/

/-- The characters left when the blanks at both ends are dropped. -/
def trimChars (cs : List Char) : List Char :=
  ((cs.dropWhile isBlank).reverse.dropWhile isBlank).reverse

/-- The text left when the blanks at both ends are dropped. -/
def trim (s : String) : String := String.ofList (trimChars s.toList)

/-! ### Words -/

/-- The runs between blanks, empty ones included: a text with `n` blanks has
`n + 1` of them. -/
def pieces : List Char → List (List Char)
  | [] => [[]]
  | c :: cs =>
    if isBlank c then [] :: pieces cs
    else
      match pieces cs with
      | [] => [[c]]
      | p :: ps => (c :: p) :: ps

@[simp] theorem pieces_nil : pieces [] = [[]] := rfl

theorem pieces_ne_nil (cs : List Char) : pieces cs ≠ [] := by
  cases cs with
  | nil => simp [pieces]
  | cons c cs =>
    unfold pieces
    split
    · simp
    · split <;> simp

/-- The runs of characters that are not blank. -/
def words (s : String) : List String :=
  ((pieces s.toList).filter fun p => !p.isEmpty).map String.ofList

/-- How many words a text has. -/
def wordCount (s : String) : Nat := (words s).length

/-- The text before the first blank and the text behind it; a text without
blanks is all in front. -/
def splitFirst (s : String) : String × String :=
  (String.ofList (s.toList.takeWhile fun c => !isBlank c),
    String.ofList ((s.toList.dropWhile fun c => !isBlank c).drop 1))

end QuizClient.Text
