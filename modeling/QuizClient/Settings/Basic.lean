import QuizClient.Game.Clue
import QuizClient.Time.Duration

/-!
# Settings

What the client shows for how long, how long a clue is read before buzzing
opens, and the times that hold when a snapshot leaves one out.

## Main definitions

* `Settings` — all of it.
* `ReadingPace.delay` — how long a clue is read.
-/

namespace QuizClient

/-- How long a clue is read before the first buzz. -/
structure ReadingPace where
  /-- Time for each word. -/
  perWord : Duration
  /-- The least time. -/
  least : Duration
  /-- The most time. -/
  most : Duration
  deriving DecidableEq

/-- The times that hold when a snapshot leaves one out. -/
structure TimeLimits where
  /-- To choose a clue. -/
  pick : Duration
  /-- To buzz once buzzing is open. -/
  buzz : Duration
  /-- To answer. -/
  answer : Duration
  /-- To wager. -/
  wager : Duration
  /-- To answer the final clue. -/
  finalAnswer : Duration
  /-- To wager on the final clue. -/
  finalWager : Duration
  /-- To vote on a ruling. -/
  vote : Duration
  deriving DecidableEq

/-- The settings of a client. -/
structure Settings where
  /-- How long score changes stay up. -/
  scoreWindow : Duration
  /-- How long a passing advisory stays up. -/
  advisoryWindow : Duration
  /-- How long a clue is read. -/
  pace : ReadingPace
  /-- The times that hold when a snapshot leaves one out. -/
  limits : TimeLimits
  deriving DecidableEq

/-- No clue counts more words than 32 unsigned bits can. -/
def ReadingPace.mostWords : Nat := UInt32.size - 1

/-- How long a clue is read: its words at the pace, raised to the least and then
cut to the most, which wins when the two cross. -/
def ReadingPace.delay (p : ReadingPace) (c : Clue) : Duration :=
  min (max (p.perWord.scale (min c.wordCount mostWords)) p.least) p.most

end QuizClient
