import QuizClient.Proofs.Acceptance
import QuizClient.Proofs.Commands

/-!
# Reading times

A clue is read for as long as its words take at the pace, but not for less than the least
time and not for more than the most, which wins when the two cross.  Nothing here overflows:
the words are counted up to a limit, and their time stops at the longest duration.

Words are counted where they begin, that is at a character that is not blank with a blank or
nothing in front of it.  So a text that is appended to another one may go on with its last
word and takes no word away from it, and a blank between the two keeps their words apart.

## Main definitions

* `Text.begun` — how many words begin in a text.
* `Text.within` — whether a text ends inside a word.

## Main results

* `wordCount_eq_begun` — words are counted where they begin.
* `begun_append` — the words of two texts, one behind the other.
* `nanos_delay` — the reading time in nanoseconds.
* `delay_le_delay` — more words take no less time.
* `reading_time_bounded` — **reading times are clamped, grow with the clue and do not
  overflow.**
-/

namespace QuizClient

/-! ### Words -/

namespace Text

/-- How many words begin in a text.  A character that is not blank begins a word unless the
text in front of it ends `inside` one. -/
def begun (inside : Bool) : List Char → Nat
  | [] => 0
  | c :: cs => (if !isBlank c && !inside then 1 else 0) + begun (!isBlank c) cs

/-- Whether a text ends inside a word, if the text in front of it does so or not. -/
def within (inside : Bool) : List Char → Bool
  | [] => inside
  | c :: cs => within (!isBlank c) cs

@[simp] theorem begun_nil (inside : Bool) : begun inside [] = 0 := rfl

@[simp] theorem within_nil (inside : Bool) : within inside [] = inside := rfl

theorem begun_blank {c : Char} (h : isBlank c = true) (inside : Bool) (cs : List Char) :
    begun inside (c :: cs) = begun false cs := by
  simp [begun, h]

theorem begun_solid {c : Char} (h : isBlank c = false) (inside : Bool) (cs : List Char) :
    begun inside (c :: cs) = (if inside then 0 else 1) + begun true cs := by
  cases inside <;> simp [begun, h]

/-- **The words of two texts, one behind the other**: the second goes on with the word that
the first ends inside. -/
theorem begun_append (inside : Bool) (cs ds : List Char) :
    begun inside (cs ++ ds) = begun inside cs + begun (within inside cs) ds := by
  induction cs generalizing inside with
  | nil => simp
  | cons c cs ih =>
    rw [List.cons_append, begun, begun, within, ih]
    omega

theorem within_append (inside : Bool) (cs ds : List Char) :
    within inside (cs ++ ds) = within (within inside cs) ds := by
  induction cs generalizing inside with
  | nil => rfl
  | cons c cs ih => exact ih _

/-- No word begins in a gap. -/
theorem begun_of_blank {cs : List Char} (h : Blank cs) (inside : Bool) :
    begun inside cs = 0 := by
  induction cs generalizing inside with
  | nil => rfl
  | cons c cs ih =>
    obtain ⟨hc, hcs⟩ := List.forall_mem_cons.mp h
    rw [begun_blank hc, ih hcs]

/-- No word goes on behind a gap. -/
theorem within_of_blank {cs : List Char} (hne : cs ≠ []) (h : Blank cs) (inside : Bool) :
    within inside cs = false := by
  induction cs generalizing inside with
  | nil => exact absurd rfl hne
  | cons c cs ih =>
    obtain ⟨hc, hcs⟩ := List.forall_mem_cons.mp h
    rw [within, hc]
    by_cases hlast : cs = []
    · rw [hlast]
      rfl
    · exact ih hlast hcs _

/-- The runs between blanks that hold something are as many as the words that begin; inside a
word the first of the runs goes on with it and does not count. -/
theorem countP_pieces (cs : List Char) :
    (pieces cs).countP (fun p => !p.isEmpty) = begun false cs ∧
      (pieces cs).tail.countP (fun p => !p.isEmpty) = begun true cs := by
  induction cs with
  | nil => exact ⟨rfl, rfl⟩
  | cons c cs ih =>
    obtain ⟨hall, hrest⟩ := ih
    cases hc : isBlank c with
    | true =>
      have hpieces : pieces (c :: cs) = [] :: pieces cs := by simp [pieces, hc]
      rw [hpieces, begun_blank hc, begun_blank hc]
      exact ⟨by simpa using hall, hall⟩
    | false =>
      rw [begun_solid hc, begun_solid hc, ← hrest]
      cases hp : pieces cs with
      | nil => exact absurd hp (pieces_ne_nil cs)
      | cons p ps =>
        have hpieces : pieces (c :: cs) = (c :: p) :: ps := by simp [pieces, hc, hp]
        rw [hpieces]
        constructor
        · simp [Nat.add_comm]
        · simp

/-- **Words are counted where they begin.** -/
theorem wordCount_eq_begun (s : String) : wordCount s = begun false s.toList := by
  rw [wordCount, words, List.length_map, ← List.countP_eq_length_filter]
  exact (countP_pieces s.toList).1

/-- **Appending a text takes no word away.** -/
theorem wordCount_le_append (s extra : String) : wordCount s ≤ wordCount (s ++ extra) := by
  rw [wordCount_eq_begun, wordCount_eq_begun, String.toList_append, begun_append]
  exact Nat.le_add_right _ _

/-- **Words on the two sides of a gap are counted apart.** -/
theorem wordCount_join {gap : String} (hne : gap ≠ "") (h : Blank gap.toList) (s t : String) :
    wordCount (s ++ gap ++ t) = wordCount s + wordCount t := by
  have hchars : gap.toList ≠ [] := by
    intro hnil
    exact hne (String.toList_eq_nil_iff.mp hnil)
  have hbehind : within false (s.toList ++ gap.toList) = false := by
    rw [within_append, within_of_blank hchars h]
  rw [wordCount_eq_begun, wordCount_eq_begun, wordCount_eq_begun, String.toList_append,
    String.toList_append, begun_append, begun_append, hbehind, begun_of_blank h, Nat.add_zero]

end Text

/-! ### Times -/

namespace ReadingPace

/-- The reading time in nanoseconds. -/
theorem nanos_delay (p : ReadingPace) (c : Clue) :
    (p.delay c).nanos = min p.most.nanos (max p.least.nanos
      (min Duration.longest.nanos (p.perWord.nanos * min c.wordCount mostWords))) := by
  have hlongest : Duration.longest.nanos = UInt64.size * nanosPerSecond - 1 := rfl
  rw [delay, Duration.nanos_min, Duration.nanos_max, Duration.scale, Duration.nanos_clip,
    hlongest]
  omega

/-- **More words take no less time.** -/
theorem delay_le_delay (p : ReadingPace) {c c' : Clue} (h : c.wordCount ≤ c'.wordCount) :
    p.delay c ≤ p.delay c' := by
  have hwords : min c.wordCount mostWords ≤ min c'.wordCount mostWords := by omega
  have htime := Nat.mul_le_mul_left p.perWord.nanos hwords
  show (p.delay c).nanos ≤ (p.delay c').nanos
  rw [nanos_delay, nanos_delay]
  omega

/-- No clue is read for longer than the most. -/
theorem delay_le_most (p : ReadingPace) (c : Clue) : p.delay c ≤ p.most := by
  show (p.delay c).nanos ≤ p.most.nanos
  rw [nanos_delay]
  omega

/-- No clue is read for less than the least, if that does not exceed the most. -/
theorem least_le_delay {p : ReadingPace} (h : p.least ≤ p.most) (c : Clue) :
    p.least ≤ p.delay c := by
  have hle : p.least.nanos ≤ p.most.nanos := h
  show p.least.nanos ≤ (p.delay c).nanos
  rw [nanos_delay]
  omega

end ReadingPace

theorem Duration.ofMillis_le_ofMillis {m n : UInt64} (h : m ≤ n) :
    Duration.ofMillis m ≤ Duration.ofMillis n := by
  show m.toNat * nanosPerMilli ≤ n.toNat * nanosPerMilli
  exact Nat.mul_le_mul_right _ (UInt64.le_iff_toNat_le.mp h)

/-- In accepted settings the least reading time does not exceed the most. -/
theorem Settings.Accepted.least_le_most {s : Settings} (h : s.Accepted) :
    s.pace.least ≤ s.pace.most := by
  obtain ⟨d, hsound, rfl⟩ := h.exists_document
  exact Duration.ofMillis_le_ofMillis ((Document.violations_eq_nil_iff d).mp hsound).2

namespace ReadingPace

/-- **Reading times are clamped, grow with the clue and do not overflow.**  At any pace, also
one whose bounds cross, a clue is read for the time of its words, which are counted up to
`2 ^ 32 - 1` and take the longest duration at most, raised to the least and then cut to the
most.  At the pace of accepted settings this lies between the two.  A clue that goes on is not
read for less time.  Words are counted where they begin, so those of two texts with a gap
between them add up. -/
theorem reading_time_bounded (p : ReadingPace) (c : Clue) :
    (p.delay c).nanos = min p.most.nanos (max p.least.nanos
      (min (UInt64.size * nanosPerSecond - 1)
        (p.perWord.nanos * min (Text.wordCount c.text) (UInt32.size - 1)))) ∧
    (∀ s : Settings, s.Accepted → s.pace.least ≤ s.pace.delay c ∧ s.pace.delay c ≤ s.pace.most) ∧
    (∀ extra, p.delay c ≤ p.delay { c with text := c.text ++ extra }) ∧
    (∀ s, Text.wordCount s = Text.begun false s.toList) ∧
    ∀ s gap t : String, gap ≠ "" → Text.Blank gap.toList →
      Text.wordCount (s ++ gap ++ t) = Text.wordCount s + Text.wordCount t := by
  refine ⟨p.nanos_delay c, ?_, ?_, Text.wordCount_eq_begun, ?_⟩
  · intro s hs
    exact ⟨least_le_delay hs.least_le_most c, s.pace.delay_le_most c⟩
  · intro extra
    apply p.delay_le_delay
    exact Text.wordCount_le_append c.text extra
  · intro s gap t hne hblank
    exact Text.wordCount_join hne hblank s t

/-- Where the bounds cross the most wins, whatever the words take. -/
example :
    let p : ReadingPace := ⟨.ofMillis 250, .ofSeconds 6, .ofSeconds 2⟩
    p.delay .blank = .ofSeconds 2 ∧
      p.delay { Clue.blank with text := "one two three" } = .ofSeconds 2 := by decide

end ReadingPace

end QuizClient
