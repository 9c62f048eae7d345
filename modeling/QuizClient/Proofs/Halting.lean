import QuizClient.Proofs.Pending
import QuizClient.Proofs.Ownership
import QuizClient.Proofs.Resting

/-!
# Halted sessions

A frame that cannot be trusted halts the session, and so does a snapshot of the broken
phase.  From then on every frame is dropped and every action refused, until the session
starts over.  Alarms are still taken while it is halted, and nothing asks them about the
halt: it has left no timer for them to move, and what is not moved starts none.

## Main definitions

* `BreaksSession` — a frame that halts a session.
* `Client.Prompted` — whether a vote on a challenged ruling is asked for agrees with the
  latest snapshot.
* `Client.Stopped` — a halted session in which nothing goes on.

## Main results

* `receive_halted_iff` — which frames halt a session.
* `prompted_run` — when a vote on a challenged ruling is asked for.
* `Stopped.step` — every event but starting over leaves a halted session stopped.
* `halt_absorbs` — **a halt lasts until the session starts over.**
-/

namespace QuizClient

/-- A frame that halts a session: it cannot be trusted, or it is a snapshot of the broken
phase that is not paused. -/
inductive BreaksSession (text : String) : Prop
  /-- It cannot be trusted. -/
  | distrusted (e : ProtocolError) (hi : Inbound.ofText text = .error e)
  /-- The server gave up on the game. -/
  | broken (g : Game) (p : Player) (advisory : Option String)
      (hi : Inbound.ofText text = .ok (.update g p advisory)) (hp : g.paused = false)
      (hphase : g.phase = .error)

namespace Client

/-! ### Becoming halted -/

/-- What an envelope tells halts a session only if it is a snapshot that does. -/
theorem take_halted_of_not_update {c : Client} {i : Inbound}
    (hi : ∀ g p advisory, i ≠ .update g p advisory) : (c.take i).1.halted = c.halted := by
  cases i with
  | heartbeat => rfl
  | update g p advisory => exact absurd rfl (hi g p advisory)
  | notice code message =>
    by_cases hm : message = ""
    · subst hm
      rfl
    · rw [take_notice_of_nonempty c code hm]
      rfl
  | failure kind code message => cases kind <;> rfl

/-- **Which frames halt a session** that goes on. -/
theorem receive_halted_iff {c : Client} (hh : c.halted = false) (text : String) :
    (c.receive text).1.halted = true ↔ BreaksSession text := by
  cases hi : Inbound.ofText text with
  | error e =>
    rw [receive_of_error hh hi]
    exact iff_of_true rfl (.distrusted e hi)
  | ok i =>
    rw [receive_of_ok hh hi]
    constructor
    · intro hhalted
      by_cases hu : ∀ g p advisory, i ≠ .update g p advisory
      · rw [take_halted_of_not_update hu, hh] at hhalted
        cases hhalted
      · push Not at hu
        obtain ⟨g, p, advisory, rfl⟩ := hu
        have hbroken : g.paused = false ∧ g.phase = .error := by
          simpa [take, update_halted, hh] using hhalted
        exact .broken g p advisory hi hbroken.1 hbroken.2
    · intro hbreaks
      cases hbreaks with
      | distrusted e he =>
        rw [hi] at he
        cases he
      | broken g p advisory hu hp hphase =>
        rw [hi] at hu
        cases hu
        simp [take, update_halted, hp, hphase]

/-! ### The vote on a challenged ruling -/

/-- A vote on a challenged ruling is asked for while, and only while, the latest snapshot
is of that phase, the game is not paused and the session goes on. -/
def Prompted (c : Client) : Prop :=
  c.disputePrompt = true ↔
    c.halted = false ∧ c.latest.game.paused = false ∧ c.latest.phase = .dispute

theorem enterPhase_disputePrompt {c : Client} (hc : c.disputePrompt = false) (o : Outcome) :
    (c.enterPhase o).1.disputePrompt = (c.latest.phase == .dispute) := by
  obtain ⟨k, r, hk⟩ := keepTime_frame c
  by_cases hb : c.latest.phase = .buzz
  · obtain ⟨k, r, w, hw⟩ := enterWindow_frame c
    simp [enterPhase_of_buzz hb, hw, hc, hb]
  by_cases hd : c.latest.phase = .dispute
  · simp [enterPhase_of_dispute hd, hd]
  by_cases he : c.latest.phase = .error
  · simp [enterPhase_of_error he, halt, surface, he]
  · simp [enterPhase_of_other hb hd he, hk, hc, hd]

/-- A snapshot asks for a vote when it is of that phase and not paused. -/
theorem update_disputePrompt (c : Client) (g : Game) (p : Player) (advisory : Option String) :
    (c.update g p advisory).1.disputePrompt = (!g.paused && g.phase == .dispute) := by
  cases hp : g.paused with
  | true =>
    rw [update_of_paused hp]
    rfl
  | false =>
    rw [update_of_running hp, enterPhase_disputePrompt (by rw [settle_eq])]
    simp

theorem prompted_update {c : Client} (hh : c.halted = false) (g : Game) (p : Player)
    (advisory : Option String) : (c.update g p advisory).1.Prompted := by
  unfold Prompted
  rw [update_disputePrompt, update_halted, update_latest, hh]
  by_cases hd : g.phase = .dispute
  · simp [hd]
  · simp [hd]

/-- A client that asks for no vote agrees with a snapshot that is not of that phase, and
with any snapshot once it is halted. -/
theorem prompted_of_unprompted {c : Client} (hc : c.disputePrompt = false)
    (h : c.halted = true ∨ c.latest.phase ≠ .dispute) : c.Prompted := by
  refine iff_of_false (by simp [hc]) ?_
  rintro ⟨hh, -, hphase⟩
  rcases h with h | h
  · rw [hh] at h
    cases h
  · exact h hphase

theorem Prompted.congr {c d : Client} (h : c.Prompted) (hd : d.disputePrompt = c.disputePrompt)
    (hh : d.halted = c.halted) (hl : d.latest = c.latest) : d.Prompted := by
  unfold Prompted
  rw [hd, hh, hl]
  exact h

theorem prompted_receive {c : Client} (h : c.Prompted) (text : String) :
    (c.receive text).1.Prompted := by
  cases received c text with
  | ignored hr =>
    rw [hr]
    exact h
  | shown a hr =>
    rw [hr]
    exact h.congr rfl rfl rfl
  | rejected a hr =>
    rw [hr]
    exact h.congr rfl rfl rfl
  | unauthorized a hr =>
    rw [hr]
    exact prompted_of_unprompted rfl (.inr (by nofun))
  | distrusted e hr =>
    rw [hr]
    exact prompted_of_unprompted rfl (.inl rfl)
  | updated g p advisory hh _ hr =>
    rw [hr]
    exact prompted_update hh g p advisory

theorem prompted_alarm {c : Client} (h : c.Prompted) (a : Alarm) : (c.alarm a).1.Prompted := by
  obtain ⟨k, o, w, es, m, ha⟩ := alarm_frame c a
  rw [ha]
  exact h.congr rfl rfl rfl

theorem prompted_step {c : Client} (h : c.Prompted) (e : Event) : (c.step e).1.Prompted := by
  cases e with
  | frame text => exact prompted_receive h text
  | alarm a => exact prompted_alarm h a
  | action a =>
    obtain ⟨b, hb, -⟩ := step_action_frame c a
    rw [hb]
    exact h.congr rfl rfl rfl
  | refused r => exact h.congr rfl rfl rfl
  | leave => exact prompted_of_unprompted rfl (.inr (by nofun))
  | reset => exact prompted_of_unprompted rfl (.inr (by nofun))

/-- **When a vote on a challenged ruling is asked for**, in every run. -/
theorem prompted_run (settings : Settings) (es : List Event) :
    ((fresh settings).run es).1.Prompted :=
  run_invariant prompted_step (prompted_of_unprompted rfl (.inr (by nofun))) es

/-! ### Staying halted -/

/-- The session is halted, no timer is left and no vote is asked for. -/
structure Stopped (c : Client) : Prop extends Resting c where
  /-- The session is halted. -/
  halted : c.halted = true
  /-- No vote is asked for. -/
  unprompted : c.disputePrompt = false

/-- In every run a halted session is stopped. -/
theorem stopped_of_halted (settings : Settings) (es : List Event)
    (h : ((fresh settings).run es).1.halted = true) : ((fresh settings).run es).1.Stopped := by
  have hcoupled := coupled_run settings es
  have howned := owned_run settings es
  have hprompted := prompted_run settings es
  generalize ((fresh settings).run es).1 = c at h hcoupled howned hprompted
  have hunowned : c.owner = none := by
    by_contra ho
    obtain ⟨p, hp⟩ := Option.ne_none_iff_exists'.mp ho
    have := (howned.admitted p hp).unhalted
    rw [h] at this
    cases this
  refine ⟨⟨?_, hunowned, ?_⟩, h, ?_⟩
  · by_contra hshown
    exact howned.shown_iff.mp hshown hunowned
  · by_contra hopen
    have := hcoupled.unhalted hopen
    rw [h] at this
    cases this
  · by_contra hprompt
    have := (hprompted.mp (by simpa using hprompt)).1
    rw [h] at this
    cases this

/-- A halted session lets the player do nothing. -/
theorem permissions_of_halted {c : Client} (h : c.halted = true) :
    c.permissions = ⟨false, false, false, false, false, false⟩ := by
  simp [permissions, Latest.permissions, Latest.playsIn, h]

theorem prepare_of_halted {c : Client} (h : c.halted = true) (a : Action) :
    c.prepare a = (c, .error .halted) := by
  have hr : c.refusal? a = some .halted := by simp [refusal?, h]
  simp only [prepare, hr]

namespace Stopped

variable {c : Client}

theorem receive_eq (h : c.Stopped) (text : String) : c.receive text = (c, .quiet, []) :=
  receive_of_halted h.halted text

/-- An alarm leaves the halt, the vote and the snapshots as they are. -/
theorem alarm_kept (h : c.Stopped) (a : Alarm) :
    (c.alarm a).1.halted = c.halted ∧ (c.alarm a).1.disputePrompt = c.disputePrompt ∧
      (c.alarm a).1.latest = c.latest := by
  obtain ⟨t, n⟩ := a
  cases t with
  | countdown => exact ⟨rfl, rfl, rfl⟩
  | reading =>
    rw [(h.alarm_eq n).2]
    exact ⟨rfl, rfl, rfl⟩
  | scores => exact ⟨rfl, rfl, rfl⟩
  | advisory =>
    by_cases hdue : n = c.advisoryGeneration ∧ c.advisory.any (·.kind.isPassing) = true
    · rw [alarm_advisory_of_due hdue]
      exact ⟨rfl, rfl, rfl⟩
    · have hnot : (c.position .advisory).standing ≠ .due n :=
        fun hd => hdue ((advisory_due_iff c n).mp hd)
      rw [alarm_eq_of_not_due hnot]
      exact ⟨rfl, rfl, rfl⟩

/-- Every event but starting over leaves the halt and the vote as they are, and only
leaving touches the snapshots. -/
theorem step_kept (h : c.Stopped) {e : Event} (he : e ≠ .reset) :
    (c.step e).1.halted = true ∧ (c.step e).1.disputePrompt = false ∧
      (c.step e).1.latest = if e = .leave then c.latest.clear else c.latest := by
  cases e with
  | frame text =>
    rw [Client.step_frame, h.receive_eq]
    exact ⟨h.halted, h.unprompted, rfl⟩
  | alarm a =>
    obtain ⟨hh, hd, hl⟩ := h.alarm_kept a
    exact ⟨hh.trans h.halted, hd.trans h.unprompted, hl⟩
  | action a =>
    obtain ⟨b, hb, -⟩ := step_action_frame c a
    rw [hb]
    exact ⟨h.halted, h.unprompted, rfl⟩
  | refused r => exact ⟨h.halted, h.unprompted, rfl⟩
  | leave => exact ⟨h.halted, rfl, rfl⟩
  | reset => exact absurd rfl he

/-- **Every event but starting over leaves a halted session stopped**, and asks for no
timer. -/
theorem step (h : c.Stopped) {e : Event} (he : e ≠ .reset) :
    (c.step e).1.Stopped ∧ timersAsked (c.step e).2.2 = [] := by
  obtain ⟨hrest, hasked⟩ := h.toResting.step (.inl h.halted)
  obtain ⟨hh, hd, -⟩ := h.step_kept he
  exact ⟨⟨hrest, hh, hd⟩, hasked⟩

theorem run (h : c.Stopped) {es : List Event} (hes : .reset ∉ es) :
    (c.run es).1.Stopped ∧ timersAsked (c.run es).2 = [] := by
  induction es generalizing c with
  | nil => exact ⟨h, rfl⟩
  | cons e es ih =>
    simp only [List.mem_cons, not_or] at hes
    obtain ⟨hstop, hasked⟩ := h.step (Ne.symm hes.1)
    obtain ⟨hlater, hasked'⟩ := ih hstop hes.2
    refine ⟨hlater, ?_⟩
    rw [run_cons, timersAsked_append, hasked, hasked']
    rfl

end Stopped

/-! ### The main result -/

/-- **A halt lasts until the session starts over**, in every run.  A session that goes on
is halted by a frame exactly when the frame cannot be trusted or is a snapshot of the
broken phase that is not paused.  Once it is halted, and whatever happens but starting
over, it shows the broken phase, allows nothing, shows no countdown, no buzz window and no
vote; every frame is dropped and every action refused without a trace; no timer is asked
for and none of their alarms does anything; and nothing but leaving touches the
snapshots. -/
theorem halt_absorbs (settings : Settings) (es : List Event) :
    let c := ((fresh settings).run es).1
    (c.halted = false → ∀ text, (c.step (.frame text)).1.halted = true ↔ BreaksSession text) ∧
    (c.halted = true → ∀ later, .reset ∉ later →
      let d := (c.run later).1
      (d.halted = true ∧ d.phase = .error ∧
        d.permissions = ⟨false, false, false, false, false, false⟩ ∧
        d.countdown.remaining = none ∧ d.window.status = .closed ∧ d.disputePrompt = false) ∧
      (∀ text, d.step (.frame text) = (d, .outcome .quiet, [])) ∧
      (∀ a, d.prepare a = (d, .error .halted)) ∧
      timersAsked (c.run later).2 = [] ∧
      (∀ n, d.alarm ⟨.countdown, n⟩ = (d, false, []) ∧ d.alarm ⟨.reading, n⟩ = (d, false, [])) ∧
      ∀ e, e ≠ .reset →
        (d.step e).1.latest = if e = .leave then d.latest.clear else d.latest) := by
  intro c
  refine ⟨fun hh text => receive_halted_iff hh text, fun hh later hlater => ?_⟩
  have hstopped : c.Stopped := stopped_of_halted settings es hh
  intro d
  obtain ⟨hd, hasked⟩ := hstopped.run hlater
  refine ⟨⟨hd.halted, ?_, permissions_of_halted hd.halted, hd.remaining_eq, hd.status_eq,
    hd.unprompted⟩, fun text => ?_, prepare_of_halted hd.halted, hasked, hd.alarm_eq,
    fun e he => (hd.step_kept he).2.2⟩
  · exact if_pos hd.halted
  · rw [Client.step_frame, hd.receive_eq]

/-- A frame that is no envelope halts the session, and after leaving it is halted still. -/
theorem halted_after_leaving :
    let c := ((fresh .default).run [.frame (pickFrame false), .frame "ping"]).1
    c.halted = true ∧ c.latest.version = 1 ∧ (c.run [.leave]).1.halted = true ∧
      (c.run [.leave]).1.phase = .error ∧
      ∀ text,
        (c.run [.leave]).1.step (.frame text) = ((c.run [.leave]).1, .outcome .quiet, []) := by
  intro c
  have hhalted : c.halted = true := by decide +kernel
  obtain ⟨hnow, hframes, -⟩ := (halt_absorbs .default _).2 hhalted [.leave] (by decide)
  exact ⟨hhalted, by decide +kernel, hnow.1, hnow.2.1, hframes⟩

end Client

end QuizClient
