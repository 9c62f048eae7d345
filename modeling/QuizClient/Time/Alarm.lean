import QuizClient.Time.Duration

/-!
# Alarms

An alarm is a delayed event that a part of the client asks for.  It carries the
generation of the timeline that asked, so that an alarm of a timeline that has
ended in the meantime is told apart from a live one.

## Main definitions

* `Timeline` — what asks for alarms.
* `Alarm` — a delayed event.
* `Wake` — an alarm and when it is wanted.
-/

namespace QuizClient

/-- What asks for alarms. -/
inductive Timeline where
  /-- The countdown, once for each second. -/
  | countdown
  /-- The reading time in front of a buzz window. -/
  | reading
  /-- The display of score changes. -/
  | scores
  /-- The display of a passing advisory. -/
  | advisory
  deriving DecidableEq, Repr

/-- A delayed event. -/
structure Alarm where
  /-- What asked for it. -/
  timeline : Timeline
  /-- Which run of that timeline. -/
  generation : Nat
  deriving DecidableEq, Repr

/-- An alarm and how long from now it is wanted. -/
structure Wake where
  /-- The alarm. -/
  alarm : Alarm
  /-- The delay. -/
  after : Duration
  deriving DecidableEq

/-- An alarm of a timeline after a delay. -/
def Timeline.wake (t : Timeline) (generation : Nat) (after : Duration) : Wake :=
  ⟨⟨t, generation⟩, after⟩

end QuizClient
