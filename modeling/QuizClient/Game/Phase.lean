import QuizClient.Json.Codec

/-!
# Phases and rounds of play

The server states the phase and the round of play as small numbers.

## Main definitions

* `Phase`, `Round` — stages of play.
* `Phase.code`, `Phase.ofCode?`, `Round.code`, `Round.ofCode?` — their numbers.
* `Phase.isTerminal` — the game is over or broken.
-/

namespace QuizClient

open Json

/-! ### Phases -/

/-- A stage of play. -/
inductive Phase where
  /-- Waiting for players. -/
  | preGame
  /-- The board of the round is being shown. -/
  | boardIntro
  /-- A player chooses a clue. -/
  | pick
  /-- The clue is open for buzzing. -/
  | buzz
  /-- One player, or in the final round every player, wagers. -/
  | wager
  /-- One player, or in the final round every player, answers. -/
  | answer
  /-- Players confirm or challenge the last ruling. -/
  | vote
  /-- A challenged ruling is put to the vote. -/
  | dispute
  /-- The final scores are shown. -/
  | postGame
  /-- The session is broken. -/
  | error
  deriving DecidableEq, Repr, Inhabited

namespace Phase

/-- Every phase in the order of the codes. -/
def all : List Phase :=
  [preGame, boardIntro, pick, buzz, wager, answer, vote, dispute, postGame, error]

/-- The number of a phase. -/
def code : Phase → Nat
  | preGame => 0
  | boardIntro => 1
  | pick => 2
  | buzz => 3
  | wager => 4
  | answer => 5
  | vote => 6
  | dispute => 7
  | postGame => 8
  | error => 9

/-- The phase with a number. -/
def ofCode? (n : Nat) : Option Phase := all[n]?

@[simp] theorem ofCode?_code (p : Phase) : ofCode? p.code = some p := by cases p <;> rfl

/-- The name of a phase in messages. -/
def name : Phase → String
  | preGame => "PreGame"
  | boardIntro => "BoardIntro"
  | pick => "RecvPick"
  | buzz => "RecvBuzz"
  | wager => "RecvWager"
  | answer => "RecvAns"
  | vote => "RecvVote"
  | dispute => "RecvDispute"
  | postGame => "PostGame"
  | error => "Error"

/-- Whether play cannot go on from a phase. -/
def isTerminal : Phase → Bool
  | postGame | error => true
  | _ => false

/-- The phase that a scalar states. -/
def ofFound (found : Found) : Except Fault Phase := do
  let n ← found.toUnsigned?
  match ofCode? n.toNat with
  | some p => .ok p
  | none => .error (.unknownPhase n)

/-- Phases as numbers. -/
def codec : Codec Phase where
  read v := ofFound v.found
  write p := .ofInt p.code

end Phase

/-! ### Rounds -/

/-- A round of play. -/
inductive Round where
  /-- The first board. -/
  | first
  /-- The second board. -/
  | second
  /-- The single clue on which every player wagers. -/
  | final
  deriving DecidableEq, Repr, Inhabited

namespace Round

/-- Every round in the order of the codes. -/
def all : List Round := [first, second, final]

/-- The number of a round. -/
def code : Round → Nat
  | first => 0
  | second => 1
  | final => 2

/-- The round with a number. -/
def ofCode? (n : Nat) : Option Round := all[n]?

@[simp] theorem ofCode?_code (r : Round) : ofCode? r.code = some r := by cases r <;> rfl

/-- The name of a round in messages. -/
def name : Round → String
  | first => "FirstRound"
  | second => "SecondRound"
  | final => "FinalRound"

/-- The round that a scalar states. -/
def ofFound (found : Found) : Except Fault Round := do
  let n ← found.toUnsigned?
  match ofCode? n.toNat with
  | some r => .ok r
  | none => .error (.unknownRound n)

/-- Rounds as numbers. -/
def codec : Codec Round where
  read v := ofFound v.found
  write r := .ofInt r.code

end Round

end QuizClient
