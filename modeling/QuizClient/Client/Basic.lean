import QuizClient.Client.Action
import QuizClient.Client.Advisory
import QuizClient.Client.BuzzWindow
import QuizClient.Client.Countdown
import QuizClient.Client.Permissions
import QuizClient.Client.ScoreChanges

/-!
# The client

The client keeps what it shows in step with the snapshots of the server.  Every
operation is a function on the client; alarms are not set by it but returned, for
whoever runs it to hand them back in time.

## Main definitions

* `Client` — the state.
* `Client.timing` — what the phase of play asks of the countdown.
* `Client.update` — takes over a snapshot.
* `Client.receive` — takes a frame from the server.
* `Client.alarm` — takes an alarm it asked for.
* `Client.prepare`, `Client.noteRefusal` — takes an action of the player.
* `Client.leave`, `Client.reset` — ends or restarts the session.
-/

namespace QuizClient

/-- The state of a client. -/
structure Client where
  /-- The settings, which never change. -/
  settings : Settings
  /-- The latest snapshots. -/
  latest : Latest
  /-- The countdown. -/
  countdown : Countdown
  /-- The phase that started the countdown shown. -/
  owner : Option Phase
  /-- The buzz window. -/
  window : BuzzWindow
  /-- The score changes on display. -/
  changes : ScoreChanges
  /-- The message on display. -/
  advisory : Option Advisory
  /-- The generation of that message. -/
  advisoryGeneration : Nat
  /-- Where the player is taken. -/
  navigation : Option Destination
  /-- Whether a vote on a challenged ruling is asked for. -/
  disputePrompt : Bool
  /-- Whether a buzz or pass went out for the latest snapshot. -/
  buzzSpent : Bool
  /-- Whether a protocol error stopped the session. -/
  halted : Bool
  deriving DecidableEq

namespace Client

/-- A client before any frame. -/
def fresh (settings : Settings) : Client where
  settings := settings
  latest := .fresh
  countdown := .fresh
  owner := none
  window := .fresh
  changes := .fresh settings.scoreWindow
  advisory := none
  advisoryGeneration := 0
  navigation := none
  disputePrompt := false
  buzzSpent := false
  halted := false

/-- The phase of play; a halted session has its own. -/
def phase (c : Client) : Phase := if c.halted then .error else c.latest.phase

/-- What the player may do. -/
def permissions (c : Client) : Permissions :=
  c.latest.permissions c.window.isBlocked c.buzzSpent c.halted

/-! ### The countdown of a phase -/

/-- Starts a countdown that a phase owns; a refused start changes nothing. -/
def startCountdown (c : Client) (phase : Phase) (d : Duration) : Client × List Wake :=
  match c.countdown.start d with
  | .ok (countdown, wakes) => ({ c with countdown := countdown, owner := some phase }, wakes)
  | .error _ => (c, [])

/-- Shows no countdown. -/
def cancelCountdown (c : Client) : Client :=
  { c with countdown := c.countdown.cancel, owner := none }

/-- Shows no countdown and leaves the buzz window. -/
def stopTimers (c : Client) : Client :=
  { c.cancelCountdown with window := c.window.close }

/-- The time to buzz. -/
def buzzTime (c : Client) : Duration := c.latest.game.buzzTime.getD c.settings.limits.buzz

/-- What a phase of play asks of the countdown. -/
inductive Timing where
  /-- There is none. -/
  | stop
  /-- It stays as it is. -/
  | keep
  /-- One runs, unless the phase already started one. -/
  | ensure (d : Duration)
  /-- A new one starts. -/
  | restart (d : Duration)
  deriving DecidableEq

/-- What the phase of play asks of the countdown.  In the final round answering
and wagering are timed only from the snapshot on that says so. -/
def timing (c : Client) : Timing :=
  let g := c.latest.game
  let limits := c.settings.limits
  match g.phase, g.round with
  | .pick, _ => .ensure (g.pickTime.getD limits.pick)
  | .answer, .final =>
    if g.startsFinalAnswer then .restart (g.finalAnswerTime.getD limits.finalAnswer) else .keep
  | .answer, _ => .ensure (g.answerTime.getD limits.answer)
  | .wager, .final =>
    if g.startsFinalWager then .restart (g.finalWagerTime.getD limits.finalWager) else .keep
  | .wager, _ => .ensure (g.wagerTime.getD limits.wager)
  | .vote, _ => if c.permissions.vote then .ensure (g.voteTime.getD limits.vote) else .stop
  | .buzz, _ => .keep
  | _, _ => .stop

/-- Does to the countdown what the phase of play asks. -/
def keepTime (c : Client) : Client × List Wake :=
  let phase := c.latest.phase
  match c.timing with
  | .stop => (c.cancelCountdown, [])
  | .keep => (c, [])
  | .ensure d => if c.owner = some phase then (c, []) else c.startCountdown phase d
  | .restart d => c.startCountdown phase d

/-! ### Messages -/

/-- Shows a message; a passing one asks to be taken down again. -/
def surface (c : Client) (a : Advisory) : Client × List Wake :=
  let generation := c.advisoryGeneration + 1
  ({ c with advisory := some a, advisoryGeneration := generation },
    if a.kind.isPassing then [Timeline.advisory.wake generation c.settings.advisoryWindow] else [])

/-- Stops the session for a protocol error. -/
def halt (c : Client) (e : ProtocolError) : Client × List Wake :=
  { c.stopTimers with halted := true, disputePrompt := false }.surface e.advisory

/-- Forgets the game.  Generations go on, so alarms asked for earlier stay without
effect. -/
def discard (c : Client) : Client :=
  let c := c.stopTimers
  { c with
    latest := c.latest.clear
    changes := c.changes.clear
    disputePrompt := false
    buzzSpent := false }

/-! ### Snapshots -/

/-- Leaves behind what belongs to an earlier phase. -/
def settle (c : Client) : Client :=
  let phase := c.latest.phase
  let c := if phase = .buzz then c else { c with window := c.window.close }
  let c := if c.owner.any (· != phase) then c.cancelCountdown else c
  { c with disputePrompt := false }

/-- Opens the buzz window of the open clue, unless it is open already and the
snapshot does not ask for a fresh one. -/
def enterWindow (c : Client) : Client × List Wake :=
  let g := c.latest.game
  if !g.startsBuzz && c.window.isFor g.clue then (c, [])
  else
    let (window, delay, wakes) := c.window.enter g c.settings.pace
    let c := { c.cancelCountdown with window := window }
    match delay with
    | some _ => (c, wakes)
    | none =>
      let (c, more) := c.startCountdown .buzz c.buzzTime
      (c, wakes ++ more)

/-- Does what the phase of play asks, after a snapshot that is not paused. -/
def enterPhase (c : Client) (o : Outcome) : Client × Outcome × List Wake :=
  match c.latest.phase with
  | .buzz =>
    let (c, wakes) := c.enterWindow
    (c, o, wakes)
  | .dispute =>
    let (c, wakes) := c.keepTime
    ({ c with disputePrompt := true }, { o with disputePrompt := true }, wakes)
  | .error =>
    let (c, wakes) := c.halt .errorPhase
    (c, { o with advisory := c.advisory }, wakes)
  | _ =>
    let (c, wakes) := c.keepTime
    (c, o, wakes)

/-- Shows the message that came with a snapshot. -/
def adviseUpdate (c : Client) : Option String → Client × Outcome × List Wake
  | none => (c, .quiet, [])
  | some message =>
    let a : Advisory := ⟨.info, message⟩
    let (c, wakes) := c.surface a
    (c, .advise a, wakes)

/-- Takes over the latest snapshots and shows how far they moved scores. -/
def replace (c : Client) (game : Game) (player : Player) : Client × List Wake :=
  let (changes, wakes) := c.changes.observe c.latest.game.players game.players
  ({ c with
    latest := c.latest.replace game player
    changes := changes
    buzzSpent := false }, wakes)

/-- Takes over a snapshot.  A paused one stops every timer; otherwise the phase of
play says what happens. -/
def update (c : Client) (game : Game) (player : Player) (advisory : Option String) :
    Client × Outcome × List Wake :=
  let (c, scoreWakes) := c.replace game player
  let (c, o, adviseWakes) := c.adviseUpdate advisory
  let c := { c with countdown := c.countdown.setPaused game.paused }
  if game.paused then
    ({ c.stopTimers with disputePrompt := false }, o, scoreWakes ++ adviseWakes)
  else
    let (c, o, wakes) := c.settle.enterPhase o
    (c, o, scoreWakes ++ adviseWakes ++ wakes)

/-! ### Frames -/

/-- Takes a failure that the server reports. -/
def fail (c : Client) (kind : Failure) (message : String) : Client × Outcome × List Wake :=
  let a : Advisory := ⟨kind.advisoryKind, message⟩
  match kind with
  | .rejected =>
    let (c, wakes) := { c with buzzSpent := false }.surface a
    (c, .advise a, wakes)
  | .unauthorized =>
    let (c, wakes) := { c.discard with navigation := some .lobby }.surface a
    (c, { Outcome.advise a with navigate := some .lobby }, wakes)
  | .serverError =>
    let (c, wakes) := c.surface a
    (c, .advise a, wakes)

/-- Takes what an envelope tells. -/
def take (c : Client) : Inbound → Client × Outcome × List Wake
  | .heartbeat => (c, .quiet, [])
  | .failure kind _ message => c.fail kind message
  | .update game player advisory => c.update game player advisory
  | .notice _ message =>
    if message = "" then (c, .quiet, [])
    else
      let a : Advisory := ⟨.info, message⟩
      let (c, wakes) := c.surface a
      (c, .advise a, wakes)

/-- Takes a frame from the server.  A halted client drops it; a frame that cannot
be trusted halts the client. -/
def receive (c : Client) (frame : String) : Client × Outcome × List Wake :=
  if c.halted then (c, .quiet, [])
  else
    match Inbound.ofText frame with
    | .ok inbound => c.take inbound
    | .error e =>
      let (c, wakes) := c.halt e
      (c, .advise e.advisory, wakes)

/-! ### Alarms -/

/-- Takes an alarm: whether it changed anything to be seen. -/
def alarm (c : Client) (a : Alarm) : Client × Bool × List Wake :=
  match a.timeline with
  | .countdown =>
    let (countdown, moved, wakes) := c.countdown.tick a.generation
    ({ c with countdown := countdown }, moved, wakes)
  | .reading =>
    let (window, opened) := c.window.elapse a.generation
    if opened then
      let (c, wakes) := { c with window := window }.startCountdown .buzz c.buzzTime
      (c, true, wakes)
    else (c, false, [])
  | .scores =>
    let (changes, cleared) := c.changes.expire a.generation
    ({ c with changes := changes }, cleared, [])
  | .advisory =>
    if a.generation = c.advisoryGeneration ∧ c.advisory.any (·.kind.isPassing) then
      ({ c with advisory := none }, true, [])
    else (c, false, [])

/-! ### Actions -/

/-- Why an action is not sent, if it is not. -/
def refusal? (c : Client) (a : Action) : Option Refusal :=
  if c.halted then some .halted
  else
    let may := c.permissions
    let onlyIf (allowed : Bool) : Option Refusal :=
      if allowed then none else some (.notAllowed a.name c.latest.phase)
    match a with
    | .pick column row =>
      if may.pick && !c.latest.game.canPick column.toNat row.toNat then
        some (.unavailable column row)
      else onlyIf may.pick
    | .buzz _ => onlyIf may.buzz
    | .answer _ => onlyIf may.answer
    | .wager amount =>
      if may.wager && amount < 0 then some (.badWager amount) else onlyIf may.wager
    | .confirm _ => onlyIf may.vote
    | .dispute _ => onlyIf may.dispute
    | .protest _ => onlyIf (c.latest.phase == .postGame)
    | .pause _ => onlyIf !c.latest.phase.isTerminal

/-- The frame of an action that may be sent; a buzz or pass is spent with it. -/
def prepare (c : Client) (a : Action) : Client × Except Refusal String :=
  match c.refusal? a with
  | some r => (c, .error r)
  | none =>
    let c' := match a with
      | .buzz _ => { c with buzzSpent := true }
      | _ => c
    (c', .ok (a.frame c.latest.phase))

/-- Shows why an action was not sent, as if the server had refused it. -/
def noteRefusal (c : Client) (r : Refusal) : Client × List Wake :=
  c.surface ⟨.rejected, r.message⟩

/-! ### Sessions -/

/-- Leaves the game for the lobby. -/
def leave (c : Client) : Client :=
  { c.discard with
    advisory := none
    advisoryGeneration := c.advisoryGeneration + 1
    navigation := some .lobby }

/-- Starts over on a fresh connection, also after a halt. -/
def reset (c : Client) : Client :=
  let c := c.discard
  { c with
    countdown := c.countdown.setPaused false
    advisory := none
    advisoryGeneration := c.advisoryGeneration + 1
    navigation := none
    halted := false }

end Client

end QuizClient
