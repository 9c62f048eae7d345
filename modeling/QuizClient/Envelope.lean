import QuizClient.Game.Snapshot

/-!
# Envelopes from the server

Every frame from the server is an envelope: a status code, a message, and, when
the code allows it, the state of the game and of the player at this client.

## Main definitions

* `Status`, `Status.ofCode` — what a status code means.
* `Envelope` — the parts of an envelope, before the snapshots are read.
* `Envelope.write` — the text of an envelope with both snapshots.
* `Inbound` — what an envelope tells the client.
* `ProtocolError` — why a frame cannot be trusted.
* `Inbound.ofText` — reads a frame.
-/

namespace QuizClient

open Json

/-! ### Status codes -/

/-- A failure that the server reports.  None comes with a snapshot. -/
inductive Failure where
  /-- The last action was refused; the player may try again. -/
  | rejected
  /-- The session is no longer accepted. -/
  | unauthorized
  /-- The server failed. -/
  | serverError
  deriving DecidableEq, Repr

/-- What a status code means. -/
inductive Status where
  /-- A snapshot. -/
  | success
  /-- A snapshot with a message. -/
  | informational
  /-- Any other code that reports no failure. -/
  | other
  /-- A failure. -/
  | failed (failure : Failure)
  deriving DecidableEq, Repr

/-- What is wrong with a frame that cannot be trusted. -/
inductive ProtocolError where
  /-- The frame is no envelope. -/
  | malformed (fault : Fault)
  /-- The status code is negative. -/
  | unknownCode (code : Int64)
  /-- An envelope that needs a snapshot lacks it. -/
  | missingSnapshot (code : Int64) (key : String)
  /-- A snapshot cannot be read. -/
  | invalidSnapshot (key : String) (fault : Fault)
  /-- The server gave up on the game. -/
  | errorPhase
  deriving DecidableEq, Repr

/-- The wording of a protocol error. -/
def ProtocolError.message : ProtocolError → String
  | .malformed fault => s!"malformed envelope: {fault.message}"
  | .unknownCode code => s!"unknown status code {code}"
  | .missingSnapshot code key => s!"envelope with code {code} is missing `{key}`"
  | .invalidSnapshot key fault => s!"invalid `{key}` snapshot: {fault.message}"
  | .errorPhase => "server moved the game into the error phase"

/-- What a status code means.  Failures start at 4400, where 4401 refuses the
session and everything from 4500 on is the server's own failure; only a negative
code means nothing. -/
def Status.ofCode (code : Int64) : Except ProtocolError Status :=
  if code < 0 then .error (.unknownCode code)
  else if code = 200 then .ok .success
  else if 4100 ≤ code ∧ code ≤ 4399 then .ok .informational
  else if code < 4400 then .ok .other
  else if code = 4401 then .ok (.failed .unauthorized)
  else if code < 4500 then .ok (.failed .rejected)
  else .ok (.failed .serverError)

/-- The failure a status reports. -/
def Status.failure? : Status → Option Failure
  | .failed f => some f
  | _ => none

/-! ### Envelopes -/

/-- The parts of an envelope, with the snapshots as they came. -/
structure Envelope where
  /-- Status code. -/
  code : Int64
  /-- Message, possibly empty. -/
  message : String
  /-- State of the game, absent when it is `null`. -/
  game : Option Value
  /-- State of the player at this client, absent when it is `null`. -/
  player : Option Value

namespace Envelope

/-- How deep the containers of a snapshot may nest: an envelope may nest 127
levels, of which it is one. -/
def snapshotDepth : Nat := 126

/-- A part that is kept as it came. -/
def kept (d : Draft) : Except Fault (Option Value) :=
  match d.keep? snapshotDepth with
  | none => .error .malformed
  | some .null => .ok none
  | some v => .ok (some v)

/-- The fields of an envelope. -/
def record : Record Draft Envelope where
  name := "RawEnvelope"
  blank := ⟨0, "", none, none⟩
  fields := [
    { Draft.field "code" (fun d => d.found >>= Found.toSigned?) fun a e => { e with code := a } with
      required := true },
    Draft.field "message" (fun d => d.found >>= Found.toString?)
      fun a e => { e with message := a },
    Draft.field "game" kept fun a e => { e with game := a },
    Draft.field "curPlayer" kept fun a e => { e with player := a }]

/-- The envelope that a text holds. -/
def ofText (s : String) : Except Fault Envelope := Draft.readText record.ofDraft s

end Envelope

/-- The text of an envelope with both snapshots. -/
def Envelope.write (code : Int64) (message : String) (game : Game) (player : Player) : String :=
  (Value.object [("code", .ofInt code.toInt), ("message", .string message),
    ("game", Game.codec.write game), ("curPlayer", Player.codec.write player)]).text

/-! ### What an envelope tells -/

/-- What an envelope tells the client. -/
inductive Inbound where
  /-- The connection is alive. -/
  | heartbeat
  /-- The whole state of the game and of the player, with a message to show. -/
  | update (game : Game) (player : Player) (advisory : Option String)
  /-- At most a message. -/
  | notice (code : Int64) (message : String)
  /-- A failure. -/
  | failure (kind : Failure) (code : Int64) (message : String)
  deriving DecidableEq

/-- The message of a heartbeat. -/
def heartbeatMessage : String := "ping"

/-- Reads a snapshot that must be there. -/
def Envelope.snapshot {α : Type} (c : Codec α) (code : Int64) (key : String) :
    Option Value → Except ProtocolError α
  | none => .error (.missingSnapshot code key)
  | some v => (c.read v).mapError (.invalidSnapshot key)

/-- What an envelope tells.  A failure wins over everything else in the envelope
and a heartbeat over the snapshots. -/
def Inbound.ofEnvelope (e : Envelope) : Except ProtocolError Inbound := do
  let status ← Status.ofCode e.code
  match status.failure? with
  | some kind => pure (.failure kind e.code e.message)
  | none =>
    if e.message = heartbeatMessage then pure .heartbeat
    else if status = .other ∧ (e.game.isNone ∨ e.player.isNone) then
      pure (.notice e.code e.message)
    else
      let game ← Envelope.snapshot Game.codec e.code "game" e.game
      let player ← Envelope.snapshot Player.codec e.code "curPlayer" e.player
      let shown := status ≠ .success ∧ e.message ≠ ""
      pure (.update game player (if shown then some e.message else none))

/-- Reads a frame. -/
def Inbound.ofText (s : String) : Except ProtocolError Inbound := do
  let e ← (Envelope.ofText s).mapError .malformed
  Inbound.ofEnvelope e

end QuizClient
