import QuizClient.Proofs.Window

/-!
# Clients at rest

A client is at rest when no countdown is shown and there is no buzz window.  Only a
snapshot that is not paused takes it out of its rest: no other frame, no alarm and
nothing the player does starts a timer, and no timer is left that an alarm could move.

## Main definitions

* `timersAsked` — the alarms asked for by the countdown and the reading time, by kind
  and delay.
* `Client.Resting` — a client at rest.
* `Event.Resumes` — a snapshot that is not paused.

## Main results

* `Resting.alarm_eq` — the alarms of the timers do nothing to a client at rest.
* `Resting.step` — **what takes a client out of its rest.**
-/

namespace QuizClient

/-- The alarms that the countdown and the reading time ask for, by kind and delay. -/
def timersAsked (wakes : List Wake) : List (Timeline × Duration) :=
  (wakes.filter fun w => w.alarm.timeline = .countdown ∨ w.alarm.timeline = .reading).map
    fun w => (w.alarm.timeline, w.after)

@[simp] theorem timersAsked_nil : timersAsked [] = [] := rfl

@[simp] theorem timersAsked_append (vs ws : List Wake) :
    timersAsked (vs ++ ws) = timersAsked vs ++ timersAsked ws := by
  simp [timersAsked]

/-- A snapshot that is not paused. -/
def Event.Resumes : Event → Prop
  | .frame text => ∃ g p advisory, Inbound.ofText text = .ok (.update g p advisory) ∧
      g.paused = false
  | _ => False

namespace Client

/-! ### Operations that ask for no timer -/

@[simp] theorem timersAsked_surface (c : Client) (a : Advisory) :
    timersAsked (c.surface a).2 = [] := by
  unfold surface
  split <;> rfl

@[simp] theorem timersAsked_halt (c : Client) (e : ProtocolError) :
    timersAsked (c.halt e).2 = [] := timersAsked_surface _ _

@[simp] theorem timersAsked_replace (c : Client) (g : Game) (p : Player) :
    timersAsked (c.replace g p).2 = [] := by
  unfold replace ScoreChanges.observe
  cases scoreChanges c.latest.game.players g.players <;> rfl

@[simp] theorem timersAsked_applied (c : Client) (g : Game) (p : Player)
    (advisory : Option String) : timersAsked (c.applied g p advisory).2.2 = [] := by
  have hadvise : timersAsked ((c.replace g p).1.adviseUpdate advisory).2.2 = [] := by
    cases advisory with
    | none => rfl
    | some message => exact timersAsked_surface _ _
  have hwakes : (c.applied g p advisory).2.2
      = (c.replace g p).2 ++ ((c.replace g p).1.adviseUpdate advisory).2.2 := rfl
  rw [hwakes, timersAsked_append, timersAsked_replace, hadvise]
  rfl

/-! ### Rest -/

/-- No countdown is shown and there is no buzz window. -/
structure Resting (c : Client) : Prop where
  /-- No countdown is shown. -/
  idle : c.countdown.display = .idle
  /-- Nothing owns one. -/
  unowned : c.owner = none
  /-- There is no buzz window. -/
  closed : c.window.stage = .closed

namespace Resting

variable {c : Client}

/-- Rest is about the countdown, its owner and the window. -/
theorem congr (h : c.Resting) {d : Client} (hk : d.countdown = c.countdown)
    (ho : d.owner = c.owner) (hw : d.window = c.window) : d.Resting := by
  refine ⟨?_, ?_, ?_⟩
  · rw [hk]
    exact h.idle
  · rw [ho]
    exact h.unowned
  · rw [hw]
    exact h.closed

theorem remaining_eq (h : c.Resting) : c.countdown.remaining = none := by
  simp [Countdown.remaining, h.idle]

theorem status_eq (h : c.Resting) : c.window.status = .closed :=
  (c.window.status_eq_closed_iff).mpr h.closed

/-- **The alarms of the timers do nothing to a client at rest**, of whatever generation
they are. -/
theorem alarm_eq (h : c.Resting) (n : Nat) :
    c.alarm ⟨.countdown, n⟩ = (c, false, []) ∧ c.alarm ⟨.reading, n⟩ = (c, false, []) := by
  have htick : (c.position .countdown).standing ≠ .due n := by simp [h.idle]
  have hread : (c.position .reading).standing ≠ .due n := by simp [h.closed]
  exact ⟨alarm_eq_of_not_due htick, alarm_eq_of_not_due hread⟩

/-- A snapshot that is paused brings a client to rest, and asks for no timer. -/
theorem of_paused (c : Client) {g : Game} (hp : g.paused = true) (p : Player)
    (advisory : Option String) :
    (c.update g p advisory).1.Resting ∧ timersAsked (c.update g p advisory).2.2 = [] := by
  rw [update_of_paused hp]
  exact ⟨⟨rfl, rfl, rfl⟩, timersAsked_applied c g p advisory⟩

theorem receive (h : c.Resting) {text : String}
    (he : c.halted = true ∨ ¬ Event.Resumes (.frame text)) :
    (c.receive text).1.Resting ∧ timersAsked (c.receive text).2.2 = [] := by
  cases received c text with
  | ignored hr =>
    rw [hr]
    exact ⟨h, rfl⟩
  | shown a hr =>
    rw [hr]
    exact ⟨h.congr rfl rfl rfl, timersAsked_surface c a⟩
  | rejected a hr =>
    rw [hr]
    exact ⟨h.congr rfl rfl rfl, timersAsked_surface _ a⟩
  | unauthorized a hr =>
    rw [hr]
    exact ⟨⟨rfl, rfl, rfl⟩, timersAsked_surface _ a⟩
  | distrusted e hr =>
    rw [hr]
    exact ⟨⟨rfl, rfl, rfl⟩, timersAsked_halt c e⟩
  | updated g p advisory hh hi hr =>
    -- the session goes on, so the snapshot is one that is paused
    have hp : g.paused = true := by
      rcases he with he | he
      · rw [hh] at he
        cases he
      · by_contra hrun
        exact he ⟨g, p, advisory, hi, by simpa using hrun⟩
    rw [hr]
    exact of_paused c hp p advisory

theorem alarm (h : c.Resting) (a : Alarm) :
    (c.alarm a).1.Resting ∧ timersAsked (c.alarm a).2.2 = [] := by
  by_cases hdue : (c.position a.timeline).standing = .due a.generation
  · obtain ⟨t, n⟩ := a
    cases t with
    | countdown =>
      rw [(h.alarm_eq n).1]
      exact ⟨h, rfl⟩
    | reading =>
      rw [(h.alarm_eq n).2]
      exact ⟨h, rfl⟩
    | scores => exact ⟨h.congr rfl rfl rfl, rfl⟩
    | advisory =>
      rw [alarm_advisory_of_due ((advisory_due_iff c n).mp hdue)]
      exact ⟨h.congr rfl rfl rfl, rfl⟩
  · rw [alarm_eq_of_not_due hdue]
    exact ⟨h, rfl⟩

/-- **Only a snapshot that is not paused takes a client out of its rest**, and that only
while the session goes on. -/
theorem step (h : c.Resting) {e : Event} (he : c.halted = true ∨ ¬ e.Resumes) :
    (c.step e).1.Resting ∧ timersAsked (c.step e).2.2 = [] := by
  cases e with
  | frame text => exact h.receive he
  | alarm a => exact h.alarm a
  | action a =>
    obtain ⟨b, hb, hw⟩ := step_action_frame c a
    rw [hb, hw]
    exact ⟨h.congr rfl rfl rfl, rfl⟩
  | refused r => exact ⟨h.congr rfl rfl rfl, timersAsked_surface c _⟩
  | leave => exact ⟨⟨rfl, rfl, rfl⟩, rfl⟩
  | reset => exact ⟨⟨rfl, rfl, rfl⟩, rfl⟩

/-- A client stays at rest until a snapshot comes that is not paused. -/
theorem run (h : c.Resting) {es : List Event} (hes : ∀ e ∈ es, ¬ e.Resumes) :
    (c.run es).1.Resting ∧ timersAsked (c.run es).2 = [] := by
  induction es generalizing c with
  | nil => exact ⟨h, rfl⟩
  | cons e es ih =>
    obtain ⟨hrest, hasked⟩ := h.step (.inr (hes e List.mem_cons_self))
    obtain ⟨hlater, hasked'⟩ := ih hrest fun f hf => hes f (List.mem_cons_of_mem e hf)
    refine ⟨hlater, ?_⟩
    rw [run_cons, timersAsked_append, hasked, hasked']
    rfl

end Resting

end Client

end QuizClient
