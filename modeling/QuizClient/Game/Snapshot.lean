import QuizClient.Game.Clue
import QuizClient.Game.Phase
import QuizClient.Time.Duration

/-!
# Game snapshots

The server always sends the whole state of a game; a snapshot replaces the one
before it.

## Main definitions

* `Game` — a snapshot of a game.
* `Game.codec` — the snapshot on the wire.
* `Game.board`, `Game.canPick` — what there is to choose.
* `Game.leaders` — the players tied for the highest score.
-/

namespace QuizClient

open Json

/-- A snapshot of a game.  A time that is absent is left to the client. -/
structure Game where
  /-- Name of the room. -/
  name : String
  /-- Phase of play. -/
  phase : Phase
  /-- Round of play. -/
  round : Round
  /-- Players in podium order. -/
  players : List Player
  /-- Board of the first round. -/
  firstBoard : List Category
  /-- Board of the second round. -/
  secondBoard : List Category
  /-- Clue of the final round. -/
  finalClue : Clue
  /-- The open clue. -/
  clue : Clue
  /-- Whether play is interrupted. -/
  paused : Bool
  /-- Identifiers of players who guessed wrong on the open clue. -/
  guessedWrong : List String
  /-- Time to choose a clue. -/
  pickTime : Option Duration
  /-- Time to buzz once buzzing is open. -/
  buzzTime : Option Duration
  /-- Time to answer outside the final round. -/
  answerTime : Option Duration
  /-- Time to wager outside the final round. -/
  wagerTime : Option Duration
  /-- Time to answer the final clue. -/
  finalAnswerTime : Option Duration
  /-- Time to wager on the final clue. -/
  finalWagerTime : Option Duration
  /-- Time to vote on a ruling. -/
  voteTime : Option Duration
  /-- A fresh buzz window starts with this snapshot. -/
  startsBuzz : Bool
  /-- Wagering on the final clue starts with this snapshot. -/
  startsFinalWager : Bool
  /-- Answering the final clue starts with this snapshot. -/
  startsFinalAnswer : Bool
  /-- Who answered last. -/
  lastToAnswer : Option Player
  /-- What they said. -/
  lastAnswer : String
  /-- Whether it was ruled right. -/
  lastCorrect : Bool
  /-- Text of the clue before. -/
  previousQuestion : String
  /-- Expected answer to the clue before. -/
  previousAnswer : String
  /-- Answer shown when a clue closes. -/
  officialAnswer : String
  /-- Whether a seated player lost the connection. -/
  disconnected : Bool
  deriving DecidableEq

/-- Times as whole seconds, `null` when absent. -/
def Duration.codec : Codec (Option Duration) :=
  Codec.optional {
    read := fun v => Duration.ofSeconds <$> v.found.toUnsigned?
    write := fun d => .ofInt d.roundNearest }

namespace Game

/-- The snapshot before any came. -/
def blank : Game where
  name := ""
  phase := .preGame
  round := .first
  players := []
  firstBoard := []
  secondBoard := []
  finalClue := .blank
  clue := .blank
  paused := false
  guessedWrong := []
  pickTime := none
  buzzTime := none
  answerTime := none
  wagerTime := none
  finalAnswerTime := none
  finalWagerTime := none
  voteTime := none
  startsBuzz := false
  startsFinalWager := false
  startsFinalAnswer := false
  lastToAnswer := none
  lastAnswer := ""
  lastCorrect := false
  previousQuestion := ""
  previousAnswer := ""
  officialAnswer := ""
  disconnected := false

instance : Inhabited Game := ⟨blank⟩

/-! ### On the wire -/

/-- The fields of a game on the wire. -/
def shape : Shape Game where
  name := "GameSnapshot"
  blank := blank
  members := [
    Codec.string.member "name" (·.name) fun a g => { g with name := a },
    (Phase.codec.member "state" (·.phase) fun a g => { g with phase := a }).needed,
    (Round.codec.member "round" (·.round) fun a g => { g with round := a }).needed,
    ((Player.codec.list.orBlank []).member "players" (·.players)
      fun a g => { g with players := a }).needed,
    (Category.codec.list.orBlank []).member "firstRound" (·.firstBoard)
      fun a g => { g with firstBoard := a },
    (Category.codec.list.orBlank []).member "secondRound" (·.secondBoard)
      fun a g => { g with secondBoard := a },
    (Clue.codec.orBlank .blank).member "finalQuestion" (·.finalClue)
      fun a g => { g with finalClue := a },
    (Clue.codec.orBlank .blank).member "curQuestion" (·.clue) fun a g => { g with clue := a },
    Codec.bool.member "paused" (·.paused) fun a g => { g with paused := a },
    (Codec.string.list.orBlank []).member "guessedWrong" (·.guessedWrong)
      fun a g => { g with guessedWrong := a },
    Duration.codec.member "pickTimeout" (·.pickTime) fun a g => { g with pickTime := a },
    Duration.codec.member "buzzTimeout" (·.buzzTime) fun a g => { g with buzzTime := a },
    Duration.codec.member "answerTimeout" (·.answerTime) fun a g => { g with answerTime := a },
    Duration.codec.member "wagerTimeout" (·.wagerTime) fun a g => { g with wagerTime := a },
    Duration.codec.member "finalAnswerTimeout" (·.finalAnswerTime)
      fun a g => { g with finalAnswerTime := a },
    Duration.codec.member "finalWagerTimeout" (·.finalWagerTime)
      fun a g => { g with finalWagerTime := a },
    Duration.codec.member "voteTimeout" (·.voteTime) fun a g => { g with voteTime := a },
    Codec.bool.member "startBuzzCountdown" (·.startsBuzz) fun a g => { g with startsBuzz := a },
    Codec.bool.member "startFinalWagerCountdown" (·.startsFinalWager)
      fun a g => { g with startsFinalWager := a },
    Codec.bool.member "startFinalAnswerCountdown" (·.startsFinalAnswer)
      fun a g => { g with startsFinalAnswer := a },
    (Player.codec.optional.member "lastToAnswer" (·.lastToAnswer)
      fun a g => { g with lastToAnswer := a }).orKey "lastAnswerer",
    (Codec.string.orBlank "").member "lastAnswer" (·.lastAnswer)
      fun a g => { g with lastAnswer := a },
    Codec.bool.member "ansCorrectness" (·.lastCorrect) fun a g => { g with lastCorrect := a },
    (Codec.string.orBlank "").member "previousQuestion" (·.previousQuestion)
      fun a g => { g with previousQuestion := a },
    (Codec.string.orBlank "").member "previousAnswer" (·.previousAnswer)
      fun a g => { g with previousAnswer := a },
    (Codec.string.orBlank "").member "officialAnswer" (·.officialAnswer)
      fun a g => { g with officialAnswer := a },
    Codec.bool.member "disconnected" (·.disconnected) fun a g => { g with disconnected := a }]

/-- Games on the wire. -/
def codec : Codec Game := shape.codec

/-! ### What a snapshot says -/

/-- The board of the current round; the final round has none. -/
def board (g : Game) : List Category :=
  match g.round with
  | .first => g.firstBoard
  | .second => g.secondBoard
  | .final => []

/-- Whether the clue in a column and row of the board can still be chosen. -/
def canPick (g : Game) (column row : Nat) : Bool :=
  match g.board[column]? with
  | none => false
  | some category =>
    match category.clues[row]? with
    | none => false
    | some clue => clue.available

/-- Whether nobody has guessed wrong on the open clue. -/
def firstAttempt (g : Game) : Bool := g.guessedWrong.isEmpty

/-- The player with an identifier. -/
def player? (g : Game) (id : String) : Option Player := g.players.find? (·.id == id)

/-- Name of the player who chooses. -/
def picking (g : Game) : Option String := (g.players.find? (·.mayPick)).map (·.name)

/-- Name of the player who answers. -/
def answering (g : Game) : Option String := (g.players.find? (·.mayAnswer)).map (·.name)

/-- Name of the player who wagers. -/
def wagering (g : Game) : Option String := (g.players.find? (·.mayWager)).map (·.name)

/-- Name of the player who answered last. -/
def lastAnswering (g : Game) : Option String := g.lastToAnswer.map (·.name)

/-- The highest score on the podium. -/
def highestScore (g : Game) : Option Int64 :=
  g.players.foldl
    (fun best p =>
      match best with
      | none => some p.score
      | some b => some (if b < p.score then p.score else b))
    none

/-- Names of the players tied for the highest score. -/
def leaders (g : Game) : List String :=
  (g.players.filter fun p => g.highestScore == some p.score).map (·.name)

end Game

end QuizClient
