import QuizClient.Time.Alarm

/-!
# Schedules

A schedule holds alarms with the moments at which they fall due, counted in
nanoseconds.

## Main definitions

* `Schedule` — alarms in the order in which they were asked for.
* `Schedule.add` — takes over what was asked for at a moment.
* `Schedule.first?` — the alarm that falls due first.
* `Schedule.bound` — how many alarms can fall due up to a moment.
-/

namespace QuizClient

/-- Alarms with the moments at which they fall due, in the order in which they were
asked for. -/
abbrev Schedule := List (Nat × Alarm)

namespace Schedule

/-- Adds alarms asked for at a moment. -/
def add (s : Schedule) (now : Nat) (wakes : List Wake) : Schedule :=
  s ++ wakes.map fun w => (now + w.after.nanos, w.alarm)

/-- The alarm that falls due first and the others; of two at one moment the one asked
for first. -/
def first? : Schedule → Option ((Nat × Alarm) × Schedule)
  | [] => none
  | e :: es =>
    match first? es with
    | none => some (e, [])
    | some (m, rest) => if e.1 ≤ m.1 then some (e, es) else some (m, e :: rest)

/-- How many alarms can fall due up to a moment, when each of them asks for at most
one more, a second later. -/
def bound (s : Schedule) (moment : Nat) : Nat :=
  (s.filter (·.1 ≤ moment)).foldl (fun n e => n + (moment - e.1) / nanosPerSecond + 1) 0

@[simp] theorem add_nil (s : Schedule) (now : Nat) : s.add now [] = s := by simp [add]

@[simp] theorem first?_nil : first? [] = none := rfl

/-- Only an empty schedule has no first alarm. -/
theorem first?_eq_none_iff {s : Schedule} : s.first? = none ↔ s = [] := by
  cases s with
  | nil => simp [first?]
  | cons e es =>
    refine ⟨fun h => ?_, fun h => by simp at h⟩
    unfold first? at h
    split at h
    · simp at h
    · split at h <;> simp at h

/-- Taking the first alarm out only changes the order of a schedule. -/
theorem perm_of_first? {s rest : Schedule} {e : Nat × Alarm} (h : s.first? = some (e, rest)) :
    s.Perm (e :: rest) := by
  induction s generalizing e rest with
  | nil => simp [first?] at h
  | cons a s ih =>
    unfold first? at h
    split at h
    · next hs =>
      rw [first?_eq_none_iff] at hs
      simp only [Option.some.injEq, Prod.mk.injEq] at h
      obtain ⟨rfl, rfl⟩ := h
      rw [hs]
    · next m rest' hs =>
      split at h
      · simp only [Option.some.injEq, Prod.mk.injEq] at h
        obtain ⟨rfl, rfl⟩ := h
        exact .refl _
      · simp only [Option.some.injEq, Prod.mk.injEq] at h
        obtain ⟨rfl, rfl⟩ := h
        exact ((ih hs).cons a).trans (.swap _ _ _)

/-- No alarm falls due before the first one. -/
theorem le_of_first? {s rest : Schedule} {e f : Nat × Alarm} (h : s.first? = some (e, rest))
    (hf : f ∈ s) : e.1 ≤ f.1 := by
  induction s generalizing e rest with
  | nil => simp [first?] at h
  | cons a s ih =>
    unfold first? at h
    split at h
    · next hs =>
      rw [first?_eq_none_iff] at hs
      simp only [Option.some.injEq, Prod.mk.injEq] at h
      obtain ⟨rfl, rfl⟩ := h
      rw [hs] at hf
      rcases List.mem_singleton.mp hf with rfl
      exact Nat.le_refl _
    · next m rest' hs =>
      split at h
      · next hle =>
        simp only [Option.some.injEq, Prod.mk.injEq] at h
        obtain ⟨rfl, rfl⟩ := h
        rcases List.mem_cons.mp hf with rfl | hf
        · exact Nat.le_refl _
        · exact Nat.le_trans hle (ih hs hf)
      · next hlt =>
        simp only [Option.some.injEq, Prod.mk.injEq] at h
        obtain ⟨rfl, rfl⟩ := h
        rcases List.mem_cons.mp hf with rfl | hf
        · omega
        · exact ih hs hf

end Schedule

end QuizClient
