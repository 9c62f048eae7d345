import QuizClient.Client.Basic

/-!
# What is shown

A view is everything that whoever shows the game needs to know of a client.  Two views are
the same when they show the same; score changes are compared by player there, and not in
their order.

## Main definitions

* `View`, `Client.view` — what is shown.
* `View.same` — whether two views show the same.
* `View.toJson` — a view as a JSON object.
-/

namespace QuizClient

open Json

/-- What is shown of a client. -/
structure View where
  /-- Phase of play. -/
  phase : Phase
  /-- Round of play. -/
  round : Round
  /-- Whether play is interrupted. -/
  paused : Bool
  /-- Seconds left on the countdown. -/
  countdown : Option Nat
  /-- The buzz window. -/
  window : BuzzStatus
  /-- What the player may do. -/
  permissions : Permissions
  /-- Score changes by player. -/
  changes : List (String × Int)
  /-- Names of the players tied for the highest score. -/
  leaders : List String
  /-- Name of the player who chooses. -/
  picking : Option String
  /-- Name of the player who answers. -/
  answering : Option String
  /-- Name of the player who wagers. -/
  wagering : Option String
  /-- Name of the player who answered last. -/
  lastAnswering : Option String
  /-- The last answer, when it is not empty. -/
  lastAnswer : Option String
  /-- Whether it was ruled right. -/
  lastCorrect : Bool
  /-- The answer whose ruling is challenged. -/
  disputed : Option Answer
  /-- The message on display. -/
  advisory : Option Advisory
  /-- Where the player is taken. -/
  navigate : Option Destination
  /-- Whether a vote on a challenged ruling is asked for. -/
  disputePrompt : Bool
  /-- Whether a protocol error stopped the session. -/
  halted : Bool
  deriving DecidableEq

/-- What is shown of a client. -/
def Client.view (c : Client) : View :=
  let g := c.latest.game
  { phase := c.phase
    round := c.latest.round
    paused := g.paused
    countdown := c.countdown.remaining
    window := c.window.status
    permissions := c.permissions
    changes := c.changes.entries
    leaders := g.leaders
    picking := g.picking
    answering := g.answering
    wagering := g.wagering
    lastAnswering := g.lastAnswering
    lastAnswer := if g.lastAnswer = "" then none else some g.lastAnswer
    lastCorrect := g.lastCorrect
    disputed := g.clue.disputed
    advisory := c.advisory
    navigate := c.navigation
    disputePrompt := c.disputePrompt
    halted := c.halted }

/-! ### Comparing views -/

/-- Whether two lists of score changes hold the same: they are of one length, and each player
of the first has the same change in the second. -/
def sameChanges (es fs : List (String × Int)) : Bool :=
  es.length == fs.length && es.all fun e => fs.lookup e.1 == some e.2

/-- Whether two views show the same, where the order of the score changes does not count. -/
def View.same (v w : View) : Bool :=
  { v with changes := w.changes } == w && sameChanges v.changes w.changes

/-! ### As JSON -/

/-- What the player may do, as a JSON object. -/
def Permissions.toJson (p : Permissions) : Value :=
  .object [("pick", .bool p.pick), ("buzz", .bool p.buzz), ("answer", .bool p.answer),
    ("wager", .bool p.wager), ("vote", .bool p.vote), ("dispute", .bool p.dispute)]

/-- An advisory as a JSON object. -/
def Advisory.toJson (a : Advisory) : Value :=
  .object [("kind", .string a.kind.name), ("message", .string a.message)]

/-- A view as a JSON object.  Score changes are pairs, in order; the advisory and the
destination only stand there when there is one. -/
def View.toJson (v : View) : Value :=
  let text := Codec.string.optional.write
  .object ([
    ("phase", Phase.codec.write v.phase),
    ("round", Round.codec.write v.round),
    ("paused", .bool v.paused),
    ("countdown", (v.countdown.map fun n => Value.ofInt n).getD .null),
    ("buzz_window", .string v.window.name),
    ("capabilities", v.permissions.toJson),
    ("score_deltas", .array (v.changes.map fun e => .array [.string e.1, .ofInt e.2])),
    ("highest_scorers", .array (v.leaders.map .string)),
    ("picking_player", text v.picking),
    ("answering_player", text v.answering),
    ("wagering_player", text v.wagering),
    ("last_to_answer", text v.lastAnswering),
    ("last_answer", text v.lastAnswer),
    ("ans_correctness", .bool v.lastCorrect),
    ("disputed_answer", Answer.codec.optional.write v.disputed)]
    ++ (v.advisory.map fun a => ("advisory", a.toJson)).toList
    ++ (v.navigate.map fun d => ("navigate", Value.string d.name)).toList
    ++ [("dispute_prompt", .bool v.disputePrompt), ("halted", .bool v.halted)])

end QuizClient
