import QuizClient.Game.Snapshot

/-!
# What the player may do

The server marks what a player may do, but a mark left over from another phase
counts for nothing, and a paused or halted session allows nothing at all.

## Main definitions

* `Latest` — the latest snapshots, which are only ever replaced together.
* `Permissions`, `Latest.permissions` — what the player may do.
-/

namespace QuizClient

/-! ### The latest snapshots -/

/-- The latest snapshots of the game and of the player at this client. -/
structure Latest where
  /-- The game. -/
  game : Game
  /-- The player. -/
  player : Player
  /-- How often they were replaced. -/
  version : Nat
  deriving DecidableEq

namespace Latest

/-- The snapshots before any came. -/
def fresh : Latest := ⟨.blank, .blank, 0⟩

instance : Inhabited Latest := ⟨fresh⟩

/-- Replaces both snapshots. -/
def replace (l : Latest) (game : Game) (player : Player) : Latest :=
  ⟨game, player, l.version + 1⟩

/-- Forgets both snapshots. -/
def clear (l : Latest) : Latest := l.replace .blank .blank

/-- The phase of play. -/
def phase (l : Latest) : Phase := l.game.phase

/-- The round of play. -/
def round (l : Latest) : Round := l.game.round

end Latest

/-! ### Permissions -/

/-- What the player may do. -/
structure Permissions where
  /-- Choose a clue. -/
  pick : Bool
  /-- Buzz or pass. -/
  buzz : Bool
  /-- Answer. -/
  answer : Bool
  /-- Wager. -/
  wager : Bool
  /-- Confirm or challenge a ruling. -/
  vote : Bool
  /-- Vote on a challenged ruling. -/
  dispute : Bool
  deriving DecidableEq, Repr, Inhabited

namespace Latest

/-- Whether play goes on in a phase. -/
def playsIn (l : Latest) (halted : Bool) (phase : Phase) : Bool :=
  !halted && !l.game.paused && l.phase == phase

/-- What the player may do, when the clue may still be read (`blocked`), a buzz may
be out for the snapshot (`spent`) and the session may be halted. -/
def permissions (l : Latest) (blocked spent halted : Bool) : Permissions where
  pick := l.player.mayPick && l.playsIn halted .pick
  buzz := l.player.mayBuzz && l.playsIn halted .buzz && !blocked && !spent
  answer := l.player.mayAnswer && l.playsIn halted .answer
  wager := l.player.mayWager && l.playsIn halted .wager
  vote := l.player.mayVote && l.playsIn halted .vote
  dispute := l.player.mayDispute && l.playsIn halted .dispute

end Latest

end QuizClient
