import QuizClient.Client.View

/-!
# Runs of a client

Everything that happens to a client is an event; a run is a list of them.

## Main definitions

* `Event` — what can happen to a client.
* `Reply` — what the client says to it.
* `Client.step` — one event.
* `Client.run` — the client after some events, and the alarms it asked for.
* `Client.Reachable` — a client that some run leads to.
-/

namespace QuizClient

/-- What can happen to a client. -/
inductive Event where
  /-- A frame comes from the server. -/
  | frame (text : String)
  /-- An alarm comes back. -/
  | alarm (alarm : Alarm)
  /-- The player wants to act. -/
  | action (action : Action)
  /-- A refusal is to be shown. -/
  | refused (refusal : Refusal)
  /-- The player leaves. -/
  | leave
  /-- The session starts over. -/
  | reset
  deriving DecidableEq, Repr

/-- What a client says to an event. -/
inductive Reply where
  /-- Nothing. -/
  | none
  /-- What a frame asks of whoever shows the game. -/
  | outcome (outcome : Outcome)
  /-- Whether an alarm changed anything to be seen. -/
  | changed (changed : Bool)
  /-- The frame of an action. -/
  | frame (text : String)
  /-- Why there is none. -/
  | refusal (refusal : Refusal)
  deriving DecidableEq, Repr

namespace Client

/-- One event: the client after it, what it says and the alarms it asks for. -/
def step (c : Client) : Event → Client × Reply × List Wake
  | .frame text =>
    let (c, outcome, wakes) := c.receive text
    (c, .outcome outcome, wakes)
  | .alarm a =>
    let (c, changed, wakes) := c.alarm a
    (c, .changed changed, wakes)
  | .action a =>
    match c.prepare a with
    | (c, .ok frame) => (c, .frame frame, [])
    | (c, .error r) => (c, .refusal r, [])
  | .refused r =>
    let (c, wakes) := c.noteRefusal r
    (c, .none, wakes)
  | .leave => (c.leave, .none, [])
  | .reset => (c.reset, .none, [])

/-- The client after some events, and the alarms it asked for, in order. -/
def run (c : Client) : List Event → Client × List Wake
  | [] => (c, [])
  | e :: es =>
    let (c, _, wakes) := c.step e
    let (c, more) := c.run es
    (c, wakes ++ more)

@[simp] theorem run_nil (c : Client) : c.run [] = (c, []) := rfl

@[simp] theorem run_cons (c : Client) (e : Event) (es : List Event) :
    c.run (e :: es)
      = (((c.step e).1.run es).1, (c.step e).2.2 ++ ((c.step e).1.run es).2) := rfl

/-- A run of two parts is a run of the second from where the first ends. -/
theorem run_append (c : Client) (es fs : List Event) :
    c.run (es ++ fs)
      = (((c.run es).1.run fs).1, (c.run es).2 ++ ((c.run es).1.run fs).2) := by
  induction es generalizing c with
  | nil => rfl
  | cons e es ih => simp [ih]

/-- A client that some run of a new client leads to. -/
def Reachable (settings : Settings) (c : Client) : Prop :=
  ∃ es, ((fresh settings).run es).1 = c

theorem Reachable.fresh (settings : Settings) : Reachable settings (Client.fresh settings) :=
  ⟨[], rfl⟩

theorem Reachable.step {settings : Settings} {c : Client} (h : Reachable settings c)
    (e : Event) : Reachable settings (c.step e).1 := by
  obtain ⟨es, rfl⟩ := h
  exact ⟨es ++ [e], by simp [run_append]⟩

end Client

end QuizClient
