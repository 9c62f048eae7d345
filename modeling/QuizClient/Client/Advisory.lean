import QuizClient.Envelope

/-!
# Advisories and outcomes

## Main definitions

* `Advisory` — a message shown to the player.
* `Destination` — where the player is taken.
* `Outcome` — what a frame asks of whoever shows the game.
-/

namespace QuizClient

/-- How serious an advisory is. -/
inductive AdvisoryKind where
  /-- It came with a snapshot or alone. -/
  | info
  /-- An action was refused, by the server or here. -/
  | rejected
  /-- The session is no longer accepted. -/
  | unauthorized
  /-- The server failed. -/
  | serverError
  /-- The session cannot go on. -/
  | fatal
  deriving DecidableEq, Repr

namespace AdvisoryKind

/-- The name of a kind. -/
def name : AdvisoryKind → String
  | info => "info"
  | rejected => "rejected"
  | unauthorized => "unauthorized"
  | serverError => "server_error"
  | fatal => "fatal"

/-- Whether an advisory disappears by itself. -/
def isPassing : AdvisoryKind → Bool
  | info | rejected | serverError => true
  | unauthorized | fatal => false

end AdvisoryKind

/-- A message shown to the player. -/
structure Advisory where
  /-- How serious it is. -/
  kind : AdvisoryKind
  /-- What it says. -/
  message : String
  deriving DecidableEq, Repr

/-- The advisory of a protocol error. -/
def ProtocolError.advisory (e : ProtocolError) : Advisory := ⟨.fatal, e.message⟩

/-- The kind of advisory that tells of a failure. -/
def Failure.advisoryKind : Failure → AdvisoryKind
  | .rejected => .rejected
  | .unauthorized => .unauthorized
  | .serverError => .serverError

/-- Where the player is taken. -/
inductive Destination where
  /-- To where games are joined. -/
  | lobby
  deriving DecidableEq, Repr

/-- The name of a destination. -/
def Destination.name : Destination → String
  | .lobby => "lobby"

/-- What a frame asks of whoever shows the game. -/
structure Outcome where
  /-- A message to show. -/
  advisory : Option Advisory
  /-- Where to take the player. -/
  navigate : Option Destination
  /-- Whether to ask for a vote on a challenged ruling. -/
  disputePrompt : Bool
  deriving DecidableEq, Repr

namespace Outcome

/-- Nothing. -/
def quiet : Outcome := ⟨none, none, false⟩

/-- Only a message. -/
def advise (a : Advisory) : Outcome := ⟨some a, none, false⟩

end Outcome

end QuizClient
