import QuizClient.Json.Record

/-!
# Players

A player as the server describes one, either a seat on the podium or the player
at this client.
-/

namespace QuizClient

open Json

/-- A player. -/
structure Player where
  /-- Identifier that survives a reconnect. -/
  id : String
  /-- Display name. -/
  name : String
  /-- Score. -/
  score : Int64
  /-- May choose a clue. -/
  mayPick : Bool
  /-- May buzz. -/
  mayBuzz : Bool
  /-- May answer. -/
  mayAnswer : Bool
  /-- May wager. -/
  mayWager : Bool
  /-- May vote on a ruling. -/
  mayVote : Bool
  /-- May vote on a challenged ruling. -/
  mayDispute : Bool
  /-- Wager on the final clue. -/
  finalWager : Int64
  /-- Answer to the final clue. -/
  finalAnswer : String
  /-- Whether that answer was ruled right. -/
  finalCorrect : Bool
  /-- Who protests against that ruling, by identifier. -/
  finalProtests : Dictionary Bool
  /-- Wants another game. -/
  playAgain : Bool
  deriving DecidableEq

namespace Player

/-- The player of whom nothing is said. -/
def blank : Player where
  id := ""
  name := ""
  score := 0
  mayPick := false
  mayBuzz := false
  mayAnswer := false
  mayWager := false
  mayVote := false
  mayDispute := false
  finalWager := 0
  finalAnswer := ""
  finalCorrect := false
  finalProtests := .empty
  playAgain := false

instance : Inhabited Player := ⟨blank⟩

/-- The fields of a player on the wire. -/
def shape : Shape Player where
  name := "PlayerSnapshot"
  blank := blank
  members := [
    (Codec.string.member "id" (·.id) fun a p => { p with id := a }).needed,
    Codec.string.member "name" (·.name) fun a p => { p with name := a },
    Codec.signed.member "score" (·.score) fun a p => { p with score := a },
    Codec.bool.member "canPick" (·.mayPick) fun a p => { p with mayPick := a },
    Codec.bool.member "canBuzz" (·.mayBuzz) fun a p => { p with mayBuzz := a },
    Codec.bool.member "canAnswer" (·.mayAnswer) fun a p => { p with mayAnswer := a },
    Codec.bool.member "canWager" (·.mayWager) fun a p => { p with mayWager := a },
    Codec.bool.member "canVote" (·.mayVote) fun a p => { p with mayVote := a },
    Codec.bool.member "canDispute" (·.mayDispute) fun a p => { p with mayDispute := a },
    Codec.signed.member "finalWager" (·.finalWager) fun a p => { p with finalWager := a },
    (Codec.string.orBlank "").member "finalAnswer" (·.finalAnswer)
      fun a p => { p with finalAnswer := a },
    Codec.bool.member "finalCorrect" (·.finalCorrect) fun a p => { p with finalCorrect := a },
    (Codec.bool.dictionary.orBlank .empty).member "finalProtestors" (·.finalProtests)
      fun a p => { p with finalProtests := a },
    Codec.bool.member "playAgain" (·.playAgain) fun a p => { p with playAgain := a }]

/-- Players on the wire. -/
def codec : Codec Player := shape.codec

end Player

end QuizClient
