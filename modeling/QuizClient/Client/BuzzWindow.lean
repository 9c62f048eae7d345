import QuizClient.Game.Snapshot
import QuizClient.Settings.Basic
import QuizClient.Time.Alarm

/-!
# The buzz window

While a clue is open for buzzing the window is first blocked, for the time it
takes to read the clue, and then open.  After a wrong guess it opens at once.
Entering and leaving the window open a new generation, so an alarm of an earlier
entry never opens a later one.

## Main definitions

* `BuzzWindow` — the window, its generation and its clue.
* `BuzzWindow.enter`, `BuzzWindow.elapse`, `BuzzWindow.close` — its operations.
* `BuzzWindow.status` — what is shown of it.
-/

namespace QuizClient

/-- What is shown of a buzz window. -/
inductive BuzzStatus where
  /-- There is no window. -/
  | closed
  /-- The clue is being read. -/
  | blocked
  /-- Buzzing is open. -/
  | open
  deriving DecidableEq, Repr, Inhabited

/-- The name of a status. -/
def BuzzStatus.name : BuzzStatus → String
  | .closed => "closed"
  | .blocked => "blocked"
  | .open => "open"

/-- Where a buzz window stands. -/
inductive BuzzWindow.Stage where
  /-- There is no window. -/
  | closed
  /-- The clue is being read, since an entry of a generation. -/
  | blocked (generation : Nat)
  /-- Buzzing is open. -/
  | open
  deriving DecidableEq, Repr

/-- The buzz window. -/
structure BuzzWindow where
  /-- Where it stands. -/
  stage : BuzzWindow.Stage
  /-- The generation of the latest entry or exit. -/
  generation : Nat
  /-- The clue it was entered for. -/
  clue : Option Clue
  deriving DecidableEq

namespace BuzzWindow

/-- The window of a new client. -/
def fresh : BuzzWindow := ⟨.closed, 0, none⟩

instance : Inhabited BuzzWindow := ⟨fresh⟩

/-- Whether there is a window for a clue. -/
def isFor (w : BuzzWindow) (clue : Clue) : Bool :=
  w.stage != .closed && w.clue.any (·.same clue)

/-- The window of the open clue of a game. A first attempt waits out the
reading time, which the second component gives; any other starts open. -/
def enter (w : BuzzWindow) (g : Game) (pace : ReadingPace) :
    BuzzWindow × Option Duration × List Wake :=
  let generation := w.generation + 1
  if g.firstAttempt then
    let delay := pace.delay g.clue
    (⟨.blocked generation, generation, some g.clue⟩, some delay,
      [Timeline.reading.wake generation delay])
  else (⟨.open, generation, some g.clue⟩, none, [])

/-- The reading time of an entry is over: whether that opened the window. -/
def elapse (w : BuzzWindow) (generation : Nat) : BuzzWindow × Bool :=
  if w.stage = .blocked generation then ({ w with stage := .open }, true) else (w, false)

/-- Leaves the window. -/
def close (w : BuzzWindow) : BuzzWindow where
  stage := .closed
  generation := if w.stage = .closed then w.generation else w.generation + 1
  clue := none

/-- What is shown of the window. -/
def status (w : BuzzWindow) : BuzzStatus :=
  match w.stage with
  | .closed => .closed
  | .blocked _ => .blocked
  | .open => .open

/-- Whether the clue is being read. -/
def isBlocked (w : BuzzWindow) : Bool := w.status == .blocked

/-! ### What the operations do to the status -/

@[simp] theorem status_close (w : BuzzWindow) : w.close.status = .closed := rfl

@[simp] theorem isBlocked_close (w : BuzzWindow) : w.close.isBlocked = false := rfl

@[simp] theorem isFor_close (w : BuzzWindow) (clue : Clue) : w.close.isFor clue = false := rfl

@[simp] theorem close_close (w : BuzzWindow) : w.close.close = w.close := rfl

/-- Leaving never goes back to an earlier generation. -/
theorem generation_le_close (w : BuzzWindow) : w.generation ≤ w.close.generation := by
  simp only [close]
  split <;> omega

/-- An entry is for the open clue of the game. -/
theorem clue_enter (w : BuzzWindow) (g : Game) (pace : ReadingPace) :
    (w.enter g pace).1.clue = some g.clue := by
  unfold enter
  split <;> rfl

/-- A first attempt is blocked and any other is open. -/
theorem status_enter (w : BuzzWindow) (g : Game) (pace : ReadingPace) :
    (w.enter g pace).1.status = if g.firstAttempt then .blocked else .open := by
  unfold enter
  split <;> rfl

/-- The window opens when the alarm belongs to the entry it is blocked by. -/
theorem elapse_opens_iff (w : BuzzWindow) (generation : Nat) :
    (w.elapse generation).2 = true ↔ w.stage = .blocked generation := by
  unfold elapse
  split <;> simp_all

/-- An alarm that does not open the window leaves it as it is. -/
theorem elapse_eq_of_not_opens {w : BuzzWindow} {generation : Nat}
    (h : (w.elapse generation).2 = false) : w.elapse generation = (w, false) := by
  unfold elapse at h ⊢
  split <;> simp_all

end BuzzWindow

end QuizClient
