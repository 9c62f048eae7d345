import QuizClient.Time.Alarm

/-!
# The countdown

At most one countdown is shown, in whole seconds.  Every start opens a new
generation, so a tick asked for by an earlier countdown never moves a later one.

## Main definitions

* `Countdown` — the countdown and the pause flag.
* `Countdown.start`, `Countdown.tick`, `Countdown.cancel`, `Countdown.setPaused` —
  its operations.
* `Countdown.remaining` — the seconds shown.
-/

namespace QuizClient

/-- What is shown of a countdown. -/
inductive Countdown.Display where
  /-- Nothing. -/
  | idle
  /-- Seconds left, ticking in a generation. -/
  | running (remaining generation : Nat)
  /-- Zero, until the countdown is cancelled. -/
  | expired
  deriving DecidableEq, Repr

/-- The countdown. -/
structure Countdown where
  /-- What is shown. -/
  display : Countdown.Display
  /-- The generation of the latest start. -/
  generation : Nat
  /-- Whether the game is paused. -/
  paused : Bool
  deriving DecidableEq, Repr

/-- Why a countdown does not start. -/
inductive CountdownRefusal where
  /-- The game is paused. -/
  | paused
  /-- There would be nothing to show. -/
  | zero
  deriving DecidableEq, Repr

/-- The wording of a refusal to start. -/
def CountdownRefusal.message : CountdownRefusal → String
  | .paused => "countdown not started while paused"
  | .zero => "countdown duration must be at least one second"

namespace Countdown

/-- The countdown of a new client. -/
def fresh : Countdown := ⟨.idle, 0, false⟩

instance : Inhabited Countdown := ⟨fresh⟩

/-- The time between ticks. -/
def tickInterval : Duration := .ofSeconds 1

/-- The alarm of a countdown's next tick. -/
def tickWake (generation : Nat) : Wake := Timeline.countdown.wake generation tickInterval

/-- Counts down from a duration, rounded up to whole seconds, in place of
whatever is shown. -/
def start (c : Countdown) (d : Duration) : Except CountdownRefusal (Countdown × List Wake) :=
  if c.paused then .error .paused
  else if d.roundUp = 0 then .error .zero
  else
    let generation := c.generation + 1
    .ok ({ c with display := .running d.roundUp generation, generation := generation },
      [tickWake generation])

/-- Shows nothing. -/
def cancel (c : Countdown) : Countdown := { c with display := .idle }

/-- One tick: whether it moved the countdown, and the next tick. -/
def tick (c : Countdown) (generation : Nat) : Countdown × Bool × List Wake :=
  match c.display with
  | .running remaining current =>
    if current = generation then
      if remaining ≤ 1 then ({ c with display := .expired }, true, [])
      else ({ c with display := .running (remaining - 1) generation }, true, [tickWake generation])
    else (c, false, [])
  | _ => (c, false, [])

/-- Takes over the pause flag of a snapshot; a pause cancels. -/
def setPaused (c : Countdown) (paused : Bool) : Countdown :=
  let c := { c with paused := paused }
  if paused then c.cancel else c

/-- The seconds shown. -/
def remaining (c : Countdown) : Option Nat :=
  match c.display with
  | .idle => none
  | .running n _ => some n
  | .expired => some 0

/-- Whether the countdown ticks. -/
def isRunning (c : Countdown) : Bool :=
  match c.display with
  | .running .. => true
  | _ => false

/-- How many countdowns tick. -/
def live (c : Countdown) : Nat := if c.isRunning then 1 else 0

/-! ### What the operations do to the display -/

@[simp] theorem remaining_cancel (c : Countdown) : c.cancel.remaining = none := rfl

@[simp] theorem isRunning_cancel (c : Countdown) : c.cancel.isRunning = false := rfl

@[simp] theorem generation_cancel (c : Countdown) : c.cancel.generation = c.generation := rfl

@[simp] theorem setPaused_true (c : Countdown) :
    c.setPaused true = { c with paused := true }.cancel := rfl

@[simp] theorem setPaused_false (c : Countdown) :
    c.setPaused false = { c with paused := false } := rfl

/-- A countdown starts when the game is not paused and there is something to show,
and then shows it in a new generation. -/
theorem start_eq_ok_iff {c : Countdown} {d : Duration} {r : Countdown × List Wake} :
    c.start d = .ok r ↔ c.paused = false ∧ d.roundUp ≠ 0 ∧
      r = ({ c with display := .running d.roundUp (c.generation + 1),
                    generation := c.generation + 1 }, [tickWake (c.generation + 1)]) := by
  unfold start
  by_cases hp : c.paused = true
  · simp [hp]
  · by_cases hz : d.roundUp = 0
    · simp [hp, hz]
    · simp [hp, hz, eq_comm]

/-- A tick moves the countdown when it belongs to the countdown that is running. -/
theorem tick_moves_iff (c : Countdown) (generation : Nat) :
    (c.tick generation).2.1 = true ↔ ∃ n, c.display = .running n generation := by
  unfold tick
  cases h : c.display with
  | idle => simp
  | expired => simp
  | running n current =>
    by_cases hg : current = generation
    · by_cases hn : n ≤ 1 <;> simp [hg, hn]
    · simp [hg]

/-- A tick that does not move the countdown leaves it as it is and asks for no
other. -/
theorem tick_eq_of_not_moves {c : Countdown} {generation : Nat}
    (h : (c.tick generation).2.1 = false) : c.tick generation = (c, false, []) := by
  unfold tick at h ⊢
  cases hd : c.display with
  | idle => rfl
  | expired => rfl
  | running n current =>
    by_cases hg : current = generation
    · by_cases hn : n ≤ 1 <;> simp [hd, hg, hn] at h
    · simp [hg]

end Countdown

end QuizClient
