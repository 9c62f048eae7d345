/-!
# Durations

A length of time in whole nanoseconds, at most `2 ^ 64 - 1` seconds and
`999999999` nanoseconds.

## Main definitions

* `Duration` — a length of time.
* `ofSeconds`, `ofMillis`, `ofParts` — durations from their parts.
* `scale` — a multiple, which stops at the longest duration.
* `roundUp`, `roundNearest` — whole seconds.
-/

namespace QuizClient

/-- Nanoseconds in a second. -/
abbrev nanosPerSecond : Nat := 1000000000

/-- Nanoseconds in a millisecond. -/
abbrev nanosPerMilli : Nat := 1000000

/-- A length of time. -/
structure Duration where
  /-- Its nanoseconds. -/
  nanos : Nat
  /-- Its seconds fit 64 bits. -/
  nanos_lt : nanos < UInt64.size * nanosPerSecond
  deriving DecidableEq

namespace Duration

@[ext] theorem ext {a b : Duration} (h : a.nanos = b.nanos) : a = b := by
  cases a
  cases b
  cases h
  rfl

/-! ### Making durations -/

/-- The longest duration. -/
def longest : Duration := ⟨UInt64.size * nanosPerSecond - 1, by decide⟩

/-- The duration of some nanoseconds, at most the longest. -/
def clip (nanos : Nat) : Duration :=
  if h : nanos < UInt64.size * nanosPerSecond then ⟨nanos, h⟩ else longest

/-- Whole seconds. -/
def ofSeconds (s : UInt64) : Duration where
  nanos := s.toNat * nanosPerSecond
  nanos_lt := Nat.mul_lt_mul_of_pos_right s.toNat_lt (by decide)

/-- Whole milliseconds. -/
def ofMillis (ms : UInt64) : Duration where
  nanos := ms.toNat * nanosPerMilli
  nanos_lt := Nat.lt_of_lt_of_le (Nat.mul_lt_mul_of_pos_right ms.toNat_lt (by decide)) (by decide)

/-- Seconds and further nanoseconds. -/
def ofParts (seconds nanos : Nat) : Duration := clip (seconds * nanosPerSecond + nanos)

instance : Inhabited Duration := ⟨ofSeconds 0⟩

/-! ### Parts -/

/-- The whole seconds. -/
def seconds (d : Duration) : Nat := d.nanos / nanosPerSecond

/-- The nanoseconds behind the whole seconds. -/
def subNanos (d : Duration) : Nat := d.nanos % nanosPerSecond

/-- The seconds, a part of a second counted as a whole one. -/
def roundUp (d : Duration) : Nat := d.seconds + if 0 < d.subNanos then 1 else 0

/-- The nearest whole seconds, half a second rounded up. -/
def roundNearest (d : Duration) : Nat :=
  d.seconds + if nanosPerSecond ≤ 2 * d.subNanos then 1 else 0

/-! ### Order and multiples -/

instance : LE Duration := ⟨fun a b => a.nanos ≤ b.nanos⟩

instance : LT Duration := ⟨fun a b => a.nanos < b.nanos⟩

instance (a b : Duration) : Decidable (a ≤ b) := inferInstanceAs (Decidable (a.nanos ≤ b.nanos))

instance (a b : Duration) : Decidable (a < b) := inferInstanceAs (Decidable (a.nanos < b.nanos))

instance : Max Duration := ⟨fun a b => if a ≤ b then b else a⟩

instance : Min Duration := ⟨fun a b => if a ≤ b then a else b⟩

/-- `k` times a duration, at most the longest. -/
def scale (d : Duration) (k : Nat) : Duration := clip (d.nanos * k)

@[simp] theorem nanos_ofSeconds (s : UInt64) :
    (ofSeconds s).nanos = s.toNat * nanosPerSecond := rfl

@[simp] theorem nanos_ofMillis (ms : UInt64) :
    (ofMillis ms).nanos = ms.toNat * nanosPerMilli := rfl

theorem nanos_clip (n : Nat) : (clip n).nanos = min n (UInt64.size * nanosPerSecond - 1) := by
  unfold clip
  split
  · next h => exact (Nat.min_eq_left (Nat.le_sub_one_of_lt h)).symm
  · next h => exact (Nat.min_eq_right (Nat.le_trans (Nat.sub_le _ _) (Nat.le_of_not_lt h))).symm

theorem nanos_max (a b : Duration) : (max a b).nanos = max a.nanos b.nanos := by
  show (if a.nanos ≤ b.nanos then b else a).nanos = max a.nanos b.nanos
  split <;> omega

theorem nanos_min (a b : Duration) : (min a b).nanos = min a.nanos b.nanos := by
  show (if a.nanos ≤ b.nanos then a else b).nanos = min a.nanos b.nanos
  split <;> omega

/-- Whole seconds round up to themselves. -/
@[simp] theorem roundUp_ofSeconds (s : UInt64) : (ofSeconds s).roundUp = s.toNat := by
  simp [roundUp, seconds, subNanos]

/-- Whole seconds are their own nearest ones. -/
@[simp] theorem roundNearest_ofSeconds (s : UInt64) : (ofSeconds s).roundNearest = s.toNat := by
  simp [roundNearest, seconds, subNanos]

end Duration

end QuizClient
