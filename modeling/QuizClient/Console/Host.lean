import QuizClient.Client.View
import QuizClient.Console.Line

/-!
# The host of a client

The host hands frames, alarms and commands to a client one at a time, sends what
the client prepares, and publishes what the client shows.  It stops when the
client is taken elsewhere, when the player leaves, when its inputs end, and when
an action can no longer be sent.

## Main definitions

* `Host` — a client with the view published last.
* `Input` — what reaches a host.
* `Host.step` — one input.
* `Host.run` — inputs in order.
-/

namespace QuizClient

/-- A client with the view published last. -/
structure Host where
  /-- The client. -/
  client : Client
  /-- The view published last. -/
  published : View
  /-- Whether the host has stopped. -/
  stopped : Bool
  deriving DecidableEq

/-- What reaches a host. -/
inductive Input where
  /-- A frame from the server. -/
  | frame (text : String)
  /-- An alarm that fell due. -/
  | alarm (alarm : Alarm)
  /-- A command of the player. -/
  | command (command : Command)
  /-- No frame will come any more. -/
  | framesClosed
  /-- No command will come any more. -/
  | commandsClosed
  deriving DecidableEq, Repr

/-- What a host asks for. -/
structure Effects where
  /-- Frames to send. -/
  frames : List String
  /-- Alarms to hand back. -/
  wakes : List Wake
  deriving DecidableEq

namespace Effects

/-- Nothing. -/
def none : Effects := ⟨[], []⟩

/-- Alarms only. -/
def wake (wakes : List Wake) : Effects := ⟨[], wakes⟩

/-- First one, then the other. -/
def append (a b : Effects) : Effects := ⟨a.frames ++ b.frames, a.wakes ++ b.wakes⟩

end Effects

namespace Host

/-- The host of a new client. -/
def fresh (settings : Settings) : Host :=
  let c := Client.fresh settings
  ⟨c, c.view, false⟩

/-- Publishes what a client shows, unless it is the same as what was published last, which
stays then, with its order of score changes. -/
def publish (h : Host) (c : Client) : Host :=
  { h with
    client := c
    published := if h.published.same c.view then h.published else c.view }

/-- Stops. -/
def stop (h : Host) : Host := { h with stopped := true }

/-- Takes an action.  An accepted one that cannot be sent stops the host at once,
with nothing published; a refused one is shown. -/
def act (h : Host) (sending : Bool) (a : Action) : Host × Effects :=
  match h.client.prepare a with
  | (c, .ok frame) =>
    if sending then (h.publish c, ⟨[frame], []⟩) else ({ h with client := c }.stop, .none)
  | (c, .error r) =>
    let (c, wakes) := c.noteRefusal r
    (h.publish c, .wake wakes)

/-- Leaves the game and stops. -/
def leave (h : Host) : Host := (h.publish h.client.leave).stop

/-- Takes one input; `sending` says whether frames can still be sent. -/
def step (h : Host) (sending : Bool) (i : Input) : Host × Effects :=
  if h.stopped then (h, .none)
  else
    match i with
    | .frame text =>
      let (c, outcome, wakes) := h.client.receive text
      let h := h.publish c
      (if outcome.navigate.isSome then h.stop else h, .wake wakes)
    | .alarm a =>
      let (c, changed, wakes) := h.client.alarm a
      (if changed then h.publish c else { h with client := c }, .wake wakes)
    | .command (.act a) => h.act sending a
    | .command .reset => (h.publish h.client.reset, .none)
    | .command .leave | .commandsClosed => (h.leave, .none)
    | .framesClosed => (h.stop, .none)

/-- Takes inputs in order. -/
def run (h : Host) (sending : Bool) : List Input → Host × Effects
  | [] => (h, .none)
  | i :: is =>
    let (h, first) := h.step sending i
    let (h, rest) := h.run sending is
    (h, first.append rest)

end Host

end QuizClient
