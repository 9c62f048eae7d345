import QuizClient.Game.Phase

/-!
# Actions and outbound frames

## Main definitions

* `Action` — what the player asks the server to do.
* `Action.frame` — an action as an outbound frame, with the phase it is meant for.
* `tokenFrame` — the first frame of a connection.
* `Refusal` — why an action is not sent.
-/

namespace QuizClient

open Json

/-- What the player asks the server to do. -/
inductive Action where
  /-- Choose a clue of the board. -/
  | pick (column row : UInt64)
  /-- Buzz, or pass on the clue. -/
  | buzz (pass : Bool)
  /-- Answer. -/
  | answer (text : String)
  /-- Wager. -/
  | wager (amount : Int64)
  /-- Confirm or challenge the last ruling. -/
  | confirm (agree : Bool)
  /-- Vote on a challenged ruling. -/
  | dispute (overturn : Bool)
  /-- Protest against the final answer of a player. -/
  | protest (player : String)
  /-- Pause or resume the game. -/
  | pause (on : Bool)
  deriving DecidableEq, Repr

namespace Action

/-- The name of an action in messages. -/
def name : Action → String
  | pick .. => "pick"
  | buzz false => "buzz"
  | buzz true => "pass"
  | answer _ => "answer"
  | wager _ => "wager"
  | confirm _ => "confirm"
  | dispute _ => "dispute"
  | protest _ => "protest"
  | pause _ => "pause"

/-- The members of an action on the wire. -/
def members : Action → List (String × Value)
  | pick column row => [("topicIdx", .ofInt column.toNat), ("valIdx", .ofInt row.toNat)]
  | buzz pass => [("isPass", .bool pass)]
  | answer text => [("answer", .string text)]
  | wager amount => [("wager", .ofInt amount.toInt)]
  | confirm agree => [("confirm", .bool agree)]
  | dispute overturn => [("dispute", .bool overturn)]
  | protest player => [("protestFor", .string player)]
  | pause on => [("pause", .bool on)]

/-- An action as an outbound frame.  The phase comes first: the server drops an
action meant for a phase it has left. -/
def frame (phase : Phase) (a : Action) : String :=
  (Value.object (("state", Phase.codec.write phase) :: a.members)).text

end Action

/-- The first frame of a connection, with the token of the session. -/
def tokenFrame (token : String) : String := (Value.object [("token", .string token)]).text

/-! ### Refusals -/

/-- Why an action is not sent. -/
inductive Refusal where
  /-- The session is halted. -/
  | halted
  /-- The player may not do it now. -/
  | notAllowed (action : String) (phase : Phase)
  /-- The clue is not on the board any more, or never was. -/
  | unavailable (column row : UInt64)
  /-- The wager is negative. -/
  | badWager (amount : Int64)
  deriving DecidableEq, Repr

/-- The wording of a refusal. -/
def Refusal.message : Refusal → String
  | .halted => "session halted; reconnect to continue"
  | .notAllowed action phase => s!"cannot {action} during {phase.name}"
  | .unavailable column row => s!"clue ({column}, {row}) cannot be picked"
  | .badWager amount => s!"invalid wager {amount}"

end QuizClient
