import QuizClient.Game.Player
import QuizClient.Time.Alarm

/-!
# Score changes on display

After a snapshot moved scores, the changes are shown for a while.  They came
together and disappear together: one alarm clears them all.

## Main definitions

* `scoreChanges` — how far scores moved between two lists of players.
* `ScoreChanges` — the changes on display.
* `ScoreChanges.observe`, `ScoreChanges.expire`, `ScoreChanges.clear` — its
  operations.
-/

namespace QuizClient

/-! ### Differences -/

/-- Sets the value of a key, in its place when it is there and at the end when it
is not. -/
def setEntry (entries : List (String × Int)) (key : String) (value : Int) :
    List (String × Int) :=
  if entries.any (·.1 == key) then entries.map fun e => if e.1 == key then (key, value) else e
  else entries ++ [(key, value)]

/-- How far the score of a player moved, when it moved and there is an earlier
one.  The difference is taken to fit 64 bits, and is neither checked nor wrapped. -/
def scoreChange? (previous : List Player) (p : Player) : Option (String × Int) := do
  let before ← previous.find? (·.id == p.id)
  let change := p.score.toInt - before.score.toInt
  if change = 0 then none else some (p.id, change)

/-- How far scores moved, in podium order. -/
def scoreChanges (previous next : List Player) : List (String × Int) :=
  (next.filterMap (scoreChange? previous)).foldl (fun es e => setEntry es e.1 e.2) []

/-! ### The display -/

/-- Score changes on display. -/
structure ScoreChanges where
  /-- The changes by player, in podium order. -/
  entries : List (String × Int)
  /-- The generation of the latest display. -/
  generation : Nat
  /-- How long a display lasts. -/
  window : Duration
  deriving DecidableEq

namespace ScoreChanges

/-- The display of a new client. -/
def fresh (window : Duration) : ScoreChanges := ⟨[], 0, window⟩

/-- Shows how far scores moved, in place of what is shown.  When none moved, what
is shown stays. -/
def observe (s : ScoreChanges) (previous next : List Player) : ScoreChanges × List Wake :=
  match scoreChanges previous next with
  | [] => (s, [])
  | changes =>
    let generation := s.generation + 1
    ({ s with entries := changes, generation := generation },
      [Timeline.scores.wake generation s.window])

/-- The time of a display is over: whether that cleared anything. -/
def expire (s : ScoreChanges) (generation : Nat) : ScoreChanges × Bool :=
  if generation = s.generation ∧ s.entries ≠ [] then ({ s with entries := [] }, true)
  else (s, false)

/-- Shows nothing, and lets no earlier alarm matter. -/
def clear (s : ScoreChanges) : ScoreChanges :=
  { s with entries := [], generation := s.generation + 1 }

/-- The change shown for a player. -/
def get? (s : ScoreChanges) (id : String) : Option Int := s.entries.lookup id

/-! ### What the operations do to the entries -/

@[simp] theorem entries_clear (s : ScoreChanges) : s.clear.entries = [] := rfl

@[simp] theorem generation_clear (s : ScoreChanges) :
    s.clear.generation = s.generation + 1 := rfl

/-- What was shown disappears when the alarm belongs to the latest display and
there is something to disappear. -/
theorem expire_clears_iff (s : ScoreChanges) (generation : Nat) :
    (s.expire generation).2 = true ↔ generation = s.generation ∧ s.entries ≠ [] := by
  unfold expire
  split <;> simp_all

/-- An alarm that clears nothing leaves the display as it is. -/
theorem expire_eq_of_not_clears {s : ScoreChanges} {generation : Nat}
    (h : (s.expire generation).2 = false) : s.expire generation = (s, false) := by
  unfold expire at h ⊢
  split <;> simp_all

end ScoreChanges

end QuizClient
