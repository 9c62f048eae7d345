import QuizClient.Console.Reader
import QuizClient.Console.Writer
import QuizClient.Settings.Basic
import QuizClient.Time.Schedule

/-!
# Sessions

A session runs a client on streams of bytes and on a clock.  Bytes of input are
cut into lines, lines reach the host of the client, what the host sends is
written as lines, and the alarms it asks for are handed back when they fall due.

## Main definitions

* `Session` — a host with its reader, its writer, its clock and its schedule.
* `Session.feed`, `Session.close`, `Session.command`, `Session.advance` — what can
  happen to it; each gives the bytes written.
-/

namespace QuizClient

/-- A client on streams of bytes and on a clock. -/
structure Session where
  /-- The host of the client. -/
  host : Host
  /-- The moment, in nanoseconds since the start. -/
  now : Nat
  /-- The alarms to come. -/
  schedule : Schedule
  /-- Where input comes from. -/
  reader : Reader
  /-- Where frames go. -/
  writer : Writer
  deriving DecidableEq

namespace Session

/-- A new session, whose writer has a budget. -/
def fresh (settings : Settings) (budget : Budget) : Session where
  host := .fresh settings
  now := 0
  schedule := []
  reader := .fresh
  writer := .fresh budget

/-! ### Inputs and alarms -/

/-- Hands inputs to the host, then writes what it sends. -/
def handle (s : Session) (inputs : List Input) : Session × List UInt8 :=
  let (host, effects) := s.host.run s.writer.working inputs
  let (writer, text) := s.writer.lines effects.frames
  ({ s with
    host := host
    writer := writer
    schedule := s.schedule.add s.now effects.wakes }, text)

/-- Hands back the alarms that fall due up to a moment, in the order of their
moments, at most `steps` of them. -/
def deliver (s : Session) (moment : Nat) : (steps : Nat) → Session × List UInt8
  | 0 => (s, [])
  | steps + 1 =>
    match s.schedule.first? with
    | none => (s, [])
    | some (e, rest) =>
      if e.1 ≤ moment then
        let s := { s with now := max s.now e.1, schedule := rest }
        let (s, text) := s.handle [.alarm e.2]
        let (s, more) := s.deliver moment steps
        (s, text ++ more)
      else (s, [])

/-- Hands back the alarms that fall due up to a moment. -/
def deliverUntil (s : Session) (moment : Nat) : Session × List UInt8 :=
  s.deliver moment (s.schedule.bound moment)

/-- Hands inputs to the host, then the alarms that are due by now. -/
def settle (s : Session) (inputs : List Input) : Session × List UInt8 :=
  let (s, text) := s.handle inputs
  let (s, more) := s.deliverUntil s.now
  (s, text ++ more)

/-! ### What can happen -/

/-- Bytes of input arrive. -/
def feed (s : Session) (bytes : List UInt8) : Session × List UInt8 :=
  let (reader, inputs) := s.reader.feed bytes
  { s with reader := reader }.settle inputs

/-- The input ends. -/
def close (s : Session) : Session × List UInt8 :=
  let (reader, inputs) := s.reader.finish
  { s with reader := reader }.settle inputs

/-- A command comes by another way than the input. -/
def command (s : Session) (c : Command) : Session × List UInt8 := s.settle [.command c]

/-- Time passes. -/
def advance (s : Session) (d : Duration) : Session × List UInt8 :=
  let moment := s.now + d.nanos
  let (s, text) := s.deliverUntil moment
  ({ s with now := moment }, text)

end Session

/-- What is said of a command that comes after the host has stopped. -/
def stoppedMessage : String := "sync driver stopped"

end QuizClient
