import QuizClient.Proofs.Messages
import QuizClient.Proofs.Presence
import QuizClient.Proofs.Snapshots

/-!
# How buzzing opens

A snapshot in which players buzz enters the buzz window anew, or leaves it alone.  Which of the
two depends on the hint of the snapshot, on the window and on its clue.  At a first attempt the
window is then blocked while the clue is read, and whatever comes meanwhile, as long as it
neither enters the window again nor leaves it, the alarm of the entry opens it: with the full
time to buzz, of the snapshot that is the latest by then.

## Main definitions

* `Countdown.initial` — what a countdown shows when it starts.
* `timerWakes` — the alarms of the countdown and of the reading time.
* `Client.Reopens` — a snapshot enters the buzz window anew.
* `Client.FullyOpen` — buzzing is open, with the full time.
* `Client.Displaces` — an event enters the buzz window anew or leaves it.

## Main results

* `reopens_iff` — when a snapshot enters the buzz window anew.
* `update_of_first`, `update_of_later`, `update_of_same` — what the snapshot does then, by
  whether somebody guessed wrong, and what it does otherwise.
* `displaces_frame_iff`, `displaces_iff` — which frames, and which events, enter the window anew
  or leave it.
* `Awaiting.run` — a blocked window waits for its alarm.
* `buzzing_opens` — **how buzzing opens.**
-/

namespace QuizClient

/-! ### Full countdowns -/

theorem Duration.roundUp_eq_zero_iff (d : Duration) : d.roundUp = 0 ↔ d = .ofSeconds 0 := by
  have hzero : d = .ofSeconds 0 ↔ d.nanos = 0 := by
    rw [Duration.ext_iff]
    rfl
  rw [hzero]
  unfold roundUp seconds subNanos nanosPerSecond
  constructor
  · intro h
    split at h <;> omega
  · intro h
    simp [h]

/-- What a countdown shows when it starts; one of no length is not shown. -/
def Countdown.initial (d : Duration) : Option Nat :=
  if d = .ofSeconds 0 then none else some d.roundUp

/-- The alarms that the countdown and the reading time ask for. -/
def timerWakes (wakes : List Wake) : List Wake :=
  wakes.filter fun w => w.alarm.timeline = .countdown ∨ w.alarm.timeline = .reading

@[simp] theorem timerWakes_append (vs ws : List Wake) :
    timerWakes (vs ++ ws) = timerWakes vs ++ timerWakes ws := by
  simp [timerWakes]

theorem timerWakes_eq_nil_iff (wakes : List Wake) :
    timerWakes wakes = [] ↔ timersAsked wakes = [] :=
  List.map_eq_nil_iff.symm

namespace Client

/-- Buzzing is open, with the countdown of a full duration, if there is one to show. -/
structure FullyOpen (r : Client × List Wake) (d : Duration) : Prop where
  /-- Buzzing is open. -/
  status : r.1.window.status = .open
  /-- The duration is shown in full. -/
  shown : r.1.countdown.remaining = Countdown.initial d
  /-- The first tick is asked for, and no other timer. -/
  asked : timerWakes r.2 =
    if d = .ofSeconds 0 then [] else [Countdown.tickWake r.1.countdown.generation]

/-- A countdown that starts in an open window makes it fully open. -/
theorem fullyOpen_startCountdown {c : Client} (ho : c.window.stage = .open)
    (hidle : c.countdown.display = .idle) (hp : c.countdown.paused = false) (d : Duration) :
    FullyOpen (c.startCountdown .buzz d) d := by
  have hopen : c.window.status = .open := (c.window.status_eq_open_iff).mpr ho
  by_cases hd : d = .ofSeconds 0
  · rw [startCountdown_of_refused (.inr ((Duration.roundUp_eq_zero_iff d).mpr hd))]
    refine ⟨hopen, ?_, ?_⟩
    · simp [Countdown.remaining, hidle, Countdown.initial, hd]
    · simp [timerWakes, hd]
  · have hpos : d.roundUp ≠ 0 := mt (Duration.roundUp_eq_zero_iff d).mp hd
    rw [startCountdown_of_accepted hp hpos]
    refine ⟨hopen, ?_, ?_⟩
    · simp [Countdown.remaining, Countdown.initial, hd]
    · simp [timerWakes, Countdown.tickWake, Timeline.wake, hd]

/-! ### A window can start its countdown -/

/-- While there is a buzz window nothing is in the way of its countdown. -/
def Ready (c : Client) : Prop := c.window.stage ≠ .closed → c.countdown.paused = false

theorem Ready.of_closed {c : Client} (h : c.window.stage = .closed) : c.Ready :=
  fun hne => absurd h hne

theorem Ready.receive {c : Client} (h : c.Ready) (text : String) : (c.receive text).1.Ready := by
  cases received c text with
  | ignored hr =>
    rw [hr]
    exact h
  | shown a hr =>
    rw [hr]
    exact h
  | rejected a hr =>
    rw [hr]
    exact h
  | unauthorized a hr =>
    rw [hr]
    exact .of_closed rfl
  | distrusted e hr =>
    rw [hr]
    exact .of_closed rfl
  | updated g p advisory _ _ hr =>
    rw [hr]
    intro hne
    rw [update_paused]
    -- a paused snapshot leaves the window
    by_contra hp
    exact hne (by rw [update_window, if_pos (.inl (by simpa using hp))]; rfl)

theorem Ready.alarm {c : Client} (h : c.Ready) (a : Alarm) : (c.alarm a).1.Ready := by
  cases rang c a with
  | stale heq =>
    rw [heq]
    exact h
  | ticked r n _ _ heq =>
    rw [heq]
    split
    · exact h
    · exact h
  | opened n _ hb heq =>
    rw [heq]
    intro _
    show (startCountdown _ .buzz c.buzzTime).1.countdown.paused = false
    rw [startCountdown_paused]
    exact h (by rw [hb]; nofun)
  | faded s m _ heq =>
    rw [heq]
    exact h

theorem ready_step {c : Client} (h : c.Ready) (e : Event) : (c.step e).1.Ready := by
  cases e with
  | frame text => exact h.receive text
  | alarm a => exact h.alarm a
  | action a =>
    obtain ⟨b, hb, -⟩ := step_action_frame c a
    rw [hb]
    exact h
  | refused r => exact h
  | leave => exact .of_closed rfl
  | reset => exact .of_closed rfl

/-! ### Entering the window anew -/

/-- A snapshot in which players buzz enters the buzz window anew. -/
inductive Reopens (c : Client) (g : Game) : Prop
  /-- It says so. -/
  | hinted (h : g.startsBuzz = true)
  /-- There is no window. -/
  | closed (h : c.window.status = .closed)
  /-- The window is of another clue. -/
  | otherClue (q : Clue) (hq : c.window.clue = some q)
      (hne : ¬ (q.category = g.clue.category ∧ q.text = g.clue.text ∧ q.value = g.clue.value))

/-- **When a snapshot enters the buzz window anew.** -/
theorem reopens_iff {c : Client} (hc : c.Coupled) (g : Game) :
    c.Reopens g ↔ ¬ (g.startsBuzz = false ∧ c.window.isFor g.clue = true) := by
  constructor
  · rintro (h | h | ⟨q, hq, hne⟩) ⟨hunhinted, hfor⟩
    · rw [h] at hunhinted
      cases hunhinted
    · exact BuzzWindow.stage_ne_closed_of_isFor hfor ((c.window.status_eq_closed_iff).mp h)
    · obtain ⟨q', hq', hsame⟩ := BuzzWindow.exists_clue_of_isFor hfor
      rw [hq] at hq'
      cases hq'
      exact hne hsame
  · intro h
    by_cases hclosed : c.window.stage = .closed
    · exact .closed ((c.window.status_eq_closed_iff).mpr hclosed)
    cases hhint : g.startsBuzz with
    | true => exact .hinted hhint
    | false =>
      obtain ⟨q, hq, -⟩ := BuzzWindow.exists_clue_of_isFor (hc.clue hclosed)
      refine .otherClue q hq fun ⟨hcategory, htext, hvalue⟩ => h ⟨hhint, ?_⟩
      simp [BuzzWindow.isFor, hclosed, hq, Clue.same, hcategory, htext, hvalue]

section Snapshot

variable {c : Client} {g : Game} (hp : g.paused = false) (hb : g.phase = .buzz) (p : Player)
  (advisory : Option String)

include hp hb

/-- A snapshot in which players buzz does to the timers what it does to the window. -/
theorem update_of_buzz :
    (c.update g p advisory).1 = (c.applied g p advisory).1.settle.enterWindow.1 ∧
      timerWakes (c.update g p advisory).2.2
        = timerWakes (c.applied g p advisory).1.settle.enterWindow.2 := by
  have hphase : (c.applied g p advisory).1.settle.latest.phase = .buzz := by simpa using hb
  have hquiet : timerWakes (c.applied g p advisory).2.2 = [] :=
    (timerWakes_eq_nil_iff _).mpr (timersAsked_applied c g p advisory)
  rw [update_of_running hp, enterPhase_of_buzz hphase]
  exact ⟨rfl, by rw [timerWakes_append, hquiet, List.nil_append]⟩

omit hp in
theorem entersAnew_settle :
    (c.applied g p advisory).1.settle.entersAnew = true ↔
      ¬ (g.startsBuzz = false ∧ c.window.isFor g.clue = true) := by
  simp only [entersAnew, settle_latest, settle_window, applied_latest, applied_window,
    phase_replace, game_replace, hb, if_true]
  cases g.startsBuzz <;> simp

/-- **At a first attempt** the window is blocked, no countdown is shown, and the alarm of the
reading time is asked for. -/
theorem update_of_first (hnew : ¬ (g.startsBuzz = false ∧ c.window.isFor g.clue = true))
    (hf : g.guessedWrong = []) :
    (c.update g p advisory).1.window.stage = .blocked (c.window.generation + 1) ∧
      (c.update g p advisory).1.window.generation = c.window.generation + 1 ∧
      (c.update g p advisory).1.countdown.display = .idle ∧
      timerWakes (c.update g p advisory).2.2
        = [Timeline.reading.wake (c.window.generation + 1) (c.settings.pace.delay g.clue)] := by
  have henters := (entersAnew_settle hb p advisory).mpr hnew
  have hfirst : g.firstAttempt = true := by simp [Game.firstAttempt, hf]
  obtain ⟨hclient, hwakes⟩ := update_of_buzz (c := c) hp hb p advisory
  rw [hwakes, hclient, enterWindow_of_first henters (by simpa using hfirst)]
  refine ⟨?_, ?_, rfl, ?_⟩
  · simp [entered, BuzzWindow.stage_enter, hfirst, hb]
  · simp [entered, BuzzWindow.generation_enter, hb]
  · simp [BuzzWindow.wakes_enter_of_first, hfirst, hb, timerWakes, Timeline.wake]

/-- **After a wrong guess** the window is open at once, with the full time. -/
theorem update_of_later (hnew : ¬ (g.startsBuzz = false ∧ c.window.isFor g.clue = true))
    (hf : g.guessedWrong ≠ []) :
    (c.update g p advisory).1.window.generation = c.window.generation + 1 ∧
      FullyOpen ((c.update g p advisory).1, (c.update g p advisory).2.2)
        (g.buzzTime.getD c.settings.limits.buzz) := by
  have henters := (entersAnew_settle hb p advisory).mpr hnew
  have hlater : g.firstAttempt = false := by simpa [Game.firstAttempt] using hf
  obtain ⟨hclient, hwakes⟩ := update_of_buzz (c := c) hp hb p advisory
  have htime : (c.applied g p advisory).1.settle.buzzTime
      = g.buzzTime.getD c.settings.limits.buzz := by simp [buzzTime]
  have hstage : (c.applied g p advisory).1.settle.entered.window.stage = .open := by
    simp [entered, BuzzWindow.stage_enter, hlater]
  rw [enterWindow_of_later henters (by simpa using hlater), htime] at hclient hwakes
  obtain ⟨hstatus, hshown, hasked⟩ := fullyOpen_startCountdown hstage rfl
    (settle_unpaused c hp p advisory) (g.buzzTime.getD c.settings.limits.buzz)
  refine ⟨?_, ⟨?_, ?_, ?_⟩⟩
  · obtain ⟨k, o, hframe⟩ := startCountdown_frame (c.applied g p advisory).1.settle.entered .buzz
      (g.buzzTime.getD c.settings.limits.buzz)
    rw [hclient, hframe]
    simp [entered, BuzzWindow.generation_enter, hb]
  · rw [hclient]
    exact hstatus
  · rw [hclient]
    exact hshown
  · show timerWakes (c.update g p advisory).2.2 = _
    rw [hwakes, hclient]
    exact hasked

/-- **Otherwise** the window and the countdown are left alone. -/
theorem update_of_same (hc : c.Coupled) (ho : c.Owned) (hr : c.Ready)
    (hsame : g.startsBuzz = false ∧ c.window.isFor g.clue = true) :
    (c.update g p advisory).1.window = c.window ∧
      (c.update g p advisory).1.countdown = c.countdown ∧
      (c.update g p advisory).1.owner = c.owner ∧ timerWakes (c.update g p advisory).2.2 = [] := by
  have hwindow : c.window.stage ≠ .closed := BuzzWindow.stage_ne_closed_of_isFor hsame.2
  -- the countdown is of the phase for buzzing, so there is nothing to leave behind
  have howner : c.owner.any (· != g.phase) = false := by
    cases hq : c.owner with
    | none => rfl
    | some q =>
      have hphase : q = .buzz :=
        (ho.admitted q hq).phase.trans (hc.stage_iff.mp hwindow).2.2
      simp [hphase, hb]
  have hcountdown : { c.countdown with paused := false } = c.countdown := by
    rw [← hr hwindow]
  have hkeeps : (c.applied g p advisory).1.settle.entersAnew = false := by
    rw [← Bool.not_eq_true, entersAnew_settle hb p advisory, not_not]
    exact hsame
  obtain ⟨hclient, hwakes⟩ := update_of_buzz (c := c) hp hb p advisory
  rw [enterWindow_of_keeps hkeeps] at hclient hwakes
  rw [hwakes, hclient]
  refine ⟨by simp [hb], ?_, ?_, rfl⟩
  · simp only [settle_countdown, applied_owner, applied_latest, phase_replace, howner,
      applied_countdown, hp, Countdown.setPaused_false, hcountdown]
    rfl
  · simp only [settle_owner, applied_owner, applied_latest, phase_replace, howner]
    rfl

end Snapshot

/-! ### Waiting for the alarm -/

/-- An event enters the buzz window anew or leaves it. -/
inductive Displaces (c : Client) : Event → Prop
  /-- A snapshot comes that is paused, of another phase or enters the window anew. -/
  | snapshot {text : String} {g : Game} {p : Player} {advisory : Option String}
      (hh : c.halted = false) (hi : Inbound.ofText text = .ok (.update g p advisory))
      (h : g.paused = true ∨ g.phase ≠ .buzz ∨ c.Reopens g) : Displaces c (.frame text)
  /-- A frame comes that cannot be trusted. -/
  | distrusted {text : String} {err : ProtocolError} (hh : c.halted = false)
      (hi : Inbound.ofText text = .error err) : Displaces c (.frame text)
  /-- The client forgets its game. -/
  | forgotten {e : Event} (hh : c.halted = false) (he : e.forgets = true) : Displaces c e

theorem generation_close_of_open {w : BuzzWindow} (h : w.stage ≠ .closed) :
    w.close.generation = w.generation + 1 := by
  simp [BuzzWindow.close, h]

/-- Leaving a window that is there takes it on to its next generation. -/
theorem generation_lt_close {w : BuzzWindow} (h : w.stage ≠ .closed) :
    w.generation < w.close.generation := by
  rw [generation_close_of_open h]
  exact Nat.lt_succ_self _

/-- What is neither a snapshot nor a refusal of the session leaves the window alone. -/
theorem take_window_of_other {c : Client} {i : Inbound}
    (hu : ∀ g p advisory, i ≠ .update g p advisory)
    (hf : ∀ code message, i ≠ .failure .unauthorized code message) :
    (c.take i).1.window = c.window := by
  obtain ⟨ms, r, h⟩ := Inbound.exists_tells hu hf
  rw [take_of_tells h]
  rfl

theorem alarm_window_generation (c : Client) (a : Alarm) :
    (c.alarm a).1.window.generation = c.window.generation := by
  cases rang c a with
  | stale heq => rw [heq]
  | ticked r n _ _ heq =>
    rw [heq]
    split <;> rfl
  | opened n _ _ heq =>
    obtain ⟨k, o, hframe⟩ := startCountdown_frame
      { c with window := { c.window with stage := .open } } .buzz c.buzzTime
    rw [heq]
    show (startCountdown _ .buzz c.buzzTime).1.window.generation = _
    rw [hframe]
  | faded s m _ heq => rw [heq]

/-- A snapshot takes a window on to its next generation if it is paused, of another phase or
enters the window anew, and leaves it alone otherwise. -/
theorem update_window_generation {c : Client} (hc : c.Coupled) (hw : c.window.stage ≠ .closed)
    (g : Game) (p : Player) (advisory : Option String) :
    c.window.generation < (c.update g p advisory).1.window.generation ↔
      g.paused = true ∨ g.phase ≠ .buzz ∨ c.Reopens g := by
  rw [update_window, reopens_iff hc, ← or_assoc]
  by_cases hleft : g.paused = true ∨ g.phase ≠ .buzz
  · rw [if_pos hleft]
    exact iff_of_true (generation_lt_close hw) (.inl hleft)
  · rw [if_neg hleft]
    by_cases hsame : g.startsBuzz = false ∧ c.window.isFor g.clue = true
    · rw [if_pos hsame]
      exact iff_of_false (Nat.lt_irrefl _) (by simp only [hleft, false_or, not_not]; exact hsame)
    · rw [if_neg hsame, BuzzWindow.generation_enter]
      exact iff_of_true (Nat.lt_succ_self _) (.inr hsame)

/-- Which frames enter a window anew or leave it: those that take it on to its next
generation. -/
theorem displaces_frame_iff {c : Client} (hc : c.Coupled) (hw : c.window.stage ≠ .closed)
    (text : String) :
    c.Displaces (.frame text) ↔ c.window.generation < (c.receive text).1.window.generation := by
  have hh := hc.unhalted hw
  cases hi : Inbound.ofText text with
  | error err =>
    rw [receive_of_error hh hi]
    exact iff_of_true (.distrusted hh hi) (generation_lt_close hw)
  | ok i =>
    rw [receive_of_ok hh hi]
    by_cases hu : ∀ g p advisory, i ≠ .update g p advisory
    · by_cases hf : ∀ code message, i ≠ .failure .unauthorized code message
      · rw [take_window_of_other hu hf]
        refine iff_of_false ?_ (Nat.lt_irrefl _)
        rintro (⟨-, hi', -⟩ | ⟨-, hi'⟩ | ⟨-, he⟩)
        · exact hu _ _ _ (Except.ok.inj (hi.symm.trans hi'))
        · cases hi.symm.trans hi'
        · obtain ⟨code, message, hi'⟩ := (Event.forgets_frame_iff text).mp he
          exact hf _ _ (Except.ok.inj (hi.symm.trans hi'))
      · push Not at hf
        obtain ⟨code, message, rfl⟩ := hf
        exact iff_of_true (.forgotten hh ((Event.forgets_frame_iff text).mpr ⟨_, _, hi⟩))
          (generation_lt_close hw)
    · push Not at hu
      obtain ⟨g, p, advisory, rfl⟩ := hu
      refine ⟨?_, fun hlt => .snapshot hh hi ((update_window_generation hc hw g p advisory).mp hlt)⟩
      rintro (⟨-, hi', h⟩ | ⟨-, hi'⟩ | ⟨-, he⟩)
      · cases hi.symm.trans hi'
        exact (update_window_generation hc hw g p advisory).mpr h
      · cases hi.symm.trans hi'
      · obtain ⟨code, message, hi'⟩ := (Event.forgets_frame_iff text).mp he
        cases hi.symm.trans hi'

/-- **Which events enter a window anew or leave it**: those that take it on to its next
generation. -/
theorem displaces_iff {c : Client} (hc : c.Coupled) (hw : c.window.stage ≠ .closed) (e : Event) :
    c.Displaces e ↔ c.window.generation < (c.step e).1.window.generation := by
  cases e with
  | frame text => exact displaces_frame_iff hc hw text
  | leave => exact iff_of_true (.forgotten (hc.unhalted hw) rfl) (generation_lt_close hw)
  | reset => exact iff_of_true (.forgotten (hc.unhalted hw) rfl) (generation_lt_close hw)
  | alarm a =>
    rw [step_alarm, alarm_window_generation]
    exact iff_of_false (by rintro (_ | _ | ⟨-, ⟨⟩⟩)) (Nat.lt_irrefl _)
  | action a =>
    obtain ⟨b, hb, -⟩ := step_action_frame c a
    rw [hb]
    exact iff_of_false (by rintro (_ | _ | ⟨-, ⟨⟩⟩)) (Nat.lt_irrefl _)
  | refused r => exact iff_of_false (by rintro (_ | _ | ⟨-, ⟨⟩⟩)) (Nat.lt_irrefl _)

/-- A client whose window is blocked by an entry, with nothing in the way of its countdown. -/
structure Awaiting (c : Client) (n : Nat) : Prop where
  /-- The window agrees with the snapshot. -/
  coupled : c.Coupled
  /-- Nothing is in the way of the countdown. -/
  ready : c.Ready
  /-- The window is blocked. -/
  blocked : c.window.stage = .blocked n

namespace Awaiting

variable {c : Client} {n : Nat}

theorem stage_ne_closed (h : c.Awaiting n) : c.window.stage ≠ .closed := by
  rw [h.blocked]
  nofun

/-- **A blocked window waits for its alarm**: nothing touches it but that alarm and what enters
it anew or leaves it. -/
theorem step_window (h : c.Awaiting n) {e : Event} (hkeeps : ¬ c.Displaces e)
    (hother : e ≠ .alarm ⟨.reading, n⟩) : (c.step e).1.window = c.window := by
  have hgeneration := mt (displaces_iff h.coupled h.stage_ne_closed e).mpr hkeeps
  cases Client.step_window c e with
  | kept hw => exact hw
  | left hw =>
    rw [hw, generation_close_of_open h.stage_ne_closed] at hgeneration
    exact absurd (Nat.lt_succ_self _) hgeneration
  | entered text g p advisory he hi hw hwakes =>
    rw [hw, BuzzWindow.generation_enter] at hgeneration
    exact absurd (Nat.lt_succ_self _) hgeneration
  | opened m he hb hw =>
    rw [h.blocked] at hb
    cases hb
    exact absurd he hother

theorem step (h : c.Awaiting n) {e : Event} (hkeeps : ¬ c.Displaces e)
    (hother : e ≠ .alarm ⟨.reading, n⟩) : (c.step e).1.Awaiting n := by
  refine ⟨coupled_step h.coupled e, ready_step h.ready e, ?_⟩
  rw [h.step_window hkeeps hother, h.blocked]

theorem remaining_eq (h : c.Awaiting n) : c.countdown.remaining = none := by
  simp [Countdown.remaining, h.coupled.idle n h.blocked]

/-- An event that does not displace the window does not make the client forget its game. -/
theorem forgets_eq_false (h : c.Awaiting n) {e : Event} (hkeeps : ¬ c.Displaces e) :
    e.forgets = false := by
  by_contra he
  exact hkeeps (.forgotten (h.coupled.unhalted h.stage_ne_closed) (by simpa using he))

/-- The alarm of the entry opens the window, with the full time of the latest snapshot. -/
theorem opens (h : c.Awaiting n) :
    (c.alarm ⟨.reading, n⟩).2.1 = true ∧
      FullyOpen ((c.alarm ⟨.reading, n⟩).1, (c.alarm ⟨.reading, n⟩).2.2) c.buzzTime := by
  let o : Client := { c with window := { c.window with stage := .open } }
  have hready : o.countdown.paused = false := h.ready h.stage_ne_closed
  obtain ⟨hstatus, hshown, hasked⟩ :=
    fullyOpen_startCountdown (c := o) rfl (h.coupled.idle n h.blocked) hready c.buzzTime
  rw [alarm_reading_of_due h.blocked]
  exact ⟨rfl, hstatus, hshown, hasked⟩

end Awaiting

/-- Nothing in a run enters the window anew, leaves it or is the alarm of an entry. -/
def Undisturbed (c : Client) (n : Nat) (es : List Event) : Prop :=
  ∀ pre e post, es = pre ++ e :: post →
    ¬ (c.run pre).1.Displaces e ∧ e ≠ .alarm ⟨.reading, n⟩

theorem Undisturbed.cons {c : Client} {n : Nat} {e : Event} {es : List Event}
    (h : c.Undisturbed n (e :: es)) :
    (¬ c.Displaces e ∧ e ≠ .alarm ⟨.reading, n⟩) ∧ (c.step e).1.Undisturbed n es := by
  refine ⟨h [] e es rfl, fun pre f post hes => ?_⟩
  exact h (e :: pre) f post (by rw [hes, List.cons_append])

/-- A blocked window waits for its alarm through a whole run, in which the client does not
forget its game. -/
theorem Awaiting.run {c : Client} {n : Nat} (h : c.Awaiting n) {es : List Event}
    (hes : c.Undisturbed n es) :
    (c.run es).1.Awaiting n ∧ (c.run es).1.window = c.window ∧ ∀ e ∈ es, e.forgets = false := by
  induction es generalizing c with
  | nil => exact ⟨h, rfl, nofun⟩
  | cons e es ih =>
    obtain ⟨⟨hkeeps, hother⟩, hrest⟩ := hes.cons
    obtain ⟨hawaits, hwindow, hforgets⟩ := ih (h.step hkeeps hother) hrest
    refine ⟨hawaits, hwindow.trans (h.step_window hkeeps hother), ?_⟩
    rw [List.forall_mem_cons]
    exact ⟨h.forgets_eq_false hkeeps, hforgets⟩

/-- A blocked window is opened by its alarm after a whole run, with the full time of the latest
snapshot by then. -/
theorem Awaiting.run_opens {c : Client} {n : Nat} (h : c.Awaiting n) {es : List Event}
    (hes : c.Undisturbed n es) :
    let s := (c.run es).1
    let o := s.alarm ⟨.reading, n⟩
    (s.window = c.window ∧ s.view.countdown = none ∧
      s.latest.game = (c.snapshots es).getLast?.getD c.latest.game) ∧
    (∀ e, s.Displaces e ↔ s.window.generation < (s.step e).1.window.generation) ∧
    o.2.1 = true ∧
      FullyOpen (o.1, o.2.2) (s.latest.game.buzzTime.getD c.settings.limits.buzz) := by
  obtain ⟨hawaits, hwindow, hforgets⟩ := h.run hes
  intro s
  have htime : s.buzzTime = s.latest.game.buzzTime.getD c.settings.limits.buzz := by
    have hsettings : s.settings = c.settings := congrArg Prod.fst (setup_run c es)
    rw [buzzTime, hsettings]
  refine ⟨⟨hwindow, hawaits.remaining_eq, game_run c hforgets⟩,
    displaces_iff hawaits.coupled hawaits.stage_ne_closed, ?_⟩
  rw [← htime]
  exact hawaits.opens

/-! ### The main result -/

/-- **How buzzing opens**, in every run.  A snapshot in which players buzz, and which is not
paused, enters the buzz window anew if it says so, if there is no window, or if the window is
of another clue.  If nobody guessed wrong the window is then blocked, no countdown is shown,
and of the timers the reading time alone asks for an alarm, once, after the time to read the
clue of the snapshot; if somebody did, buzzing is open at once, with the full time to buzz.  A
snapshot that does not enter the window anew leaves it, and the countdown, as they are.  And
whatever comes while the window is blocked, other snapshots included, as long as nothing takes
it on to another generation, its alarm opens it with the full time to buzz of the snapshot that
is the latest by then, and without a countdown if that is no time at all. -/
theorem buzzing_opens (settings : Settings) (es : List Event)
    (hh : ((fresh settings).run es).1.halted = false) {g : Game} (hp : g.paused = false)
    (hb : g.phase = .buzz) (p : Player) (advisory : Option String) :
    let c := ((fresh settings).run es).1
    let r := c.take (.update g p advisory)
    let d := r.1
    let n := c.window.generation + 1
    (c.Reopens g → g.guessedWrong = [] →
      (d.window.stage = .blocked n ∧ d.view.window = .blocked ∧ d.view.countdown = none ∧
        timerWakes r.2.2 = [Timeline.reading.wake n (settings.pace.delay g.clue)]) ∧
      ∀ later, d.Undisturbed n later →
        let s := (d.run later).1
        let o := s.alarm ⟨.reading, n⟩
        (s.window = d.window ∧ s.view.countdown = none ∧
          s.latest.game = (d.snapshots later).getLast?.getD g) ∧
        (∀ e, s.Displaces e ↔ s.window.generation < (s.step e).1.window.generation) ∧
        o.2.1 = true ∧ FullyOpen (o.1, o.2.2) (s.latest.game.buzzTime.getD settings.limits.buzz)) ∧
    (c.Reopens g → g.guessedWrong ≠ [] →
      d.window.generation = n ∧
        FullyOpen (d, r.2.2) (g.buzzTime.getD settings.limits.buzz)) ∧
    (¬ c.Reopens g →
      d.window = c.window ∧ d.countdown = c.countdown ∧ d.owner = c.owner ∧
        timerWakes r.2.2 = []) := by
  intro c r d n
  have hcoupled : c.Coupled := coupled_run settings es
  have hready : c.Ready := run_invariant ready_step (.of_closed rfl) es
  have hsettings : c.settings = settings := settings_run settings es
  have hd : d = (c.update g p advisory).1 := rfl
  refine ⟨fun hnew hf => ?_, fun hnew hf => ?_, fun hold => ?_⟩
  · have hanew := (reopens_iff hcoupled g).mp hnew
    obtain ⟨hstage, -, -, hasked⟩ := update_of_first hp hb p advisory hanew hf
    have hawaits : d.Awaiting n := by
      refine ⟨hcoupled.update hh g p advisory, fun _ => ?_, hstage⟩
      rw [hd, update_paused, hp]
    have hgame : d.latest.game = g := by
      rw [hd, update_latest]
      rfl
    have hlimits : d.settings = settings := by rw [hd, update_settings, hsettings]
    refine ⟨⟨hstage, (d.window.status_eq_blocked_iff).mpr ⟨n, hstage⟩, hawaits.remaining_eq,
      hsettings ▸ hasked⟩, fun later hlater => ?_⟩
    have hopens := hawaits.run_opens hlater
    rwa [hgame, hlimits] at hopens
  · have hanew := (reopens_iff hcoupled g).mp hnew
    have hopen := update_of_later hp hb p advisory hanew hf
    rwa [hsettings] at hopen
  · have hsame := not_not.mp (mt (reopens_iff hcoupled g).mpr hold)
    exact update_of_same hp hb p advisory hcoupled (owned_run settings es) hready hsame

/-- A frame that tells of a wrong guess and of less time to buzz. -/
def guessedFrame : String :=
  "\x7b\"code\":200,\"game\":\x7b\"state\":3,\"round\":0,\"players\":[],"
    ++ "\"guessedWrong\":[\"b\"],\"buzzTimeout\":3\x7d,\"curPlayer\":\x7b\"id\":\"a\"\x7d\x7d"

/-- A snapshot with seven seconds to buzz blocks the window, and one that tells of a wrong guess
and of three seconds comes before the alarm: it opens nothing, but the three seconds are what
is shown once the alarm comes. -/
theorem opened_with_time_of_latest :
    let es : List Event := [.frame (pickFrame false)]
    let clue : Game := { Game.blank with phase := .buzz, buzzTime := some (.ofSeconds 7) }
    let c := ((fresh .default).run es).1
    let d := (c.take (.update clue .blank none)).1
    let s := (d.run [.frame guessedFrame]).1
    let o := s.alarm ⟨.reading, 1⟩
    c.Reopens clue ∧ d.view.window = .blocked ∧
      s.latest.game.guessedWrong = ["b"] ∧ s.view.window = .blocked ∧
      o.1.view.window = .open ∧ o.1.view.countdown = some 3 := by
  intro es clue
  obtain ⟨hgoes, hclosed, hfirst⟩ : ((fresh .default).run es).1.halted = false ∧
      ((fresh .default).run es).1.window.status = .closed ∧
      ((fresh .default).run es).1.window.generation = 0 := by decide +kernel
  obtain ⟨hwindow, hguessed, hstays, hthree⟩ :
      (((fresh .default).run es).1.take (.update clue .blank none)).1.window.stage ≠ .closed ∧
      ((((fresh .default).run es).1.take (.update clue .blank none)).1.run
        [.frame guessedFrame]).1.latest.game.guessedWrong = ["b"] ∧
      (¬ (((fresh .default).run es).1.take (.update clue .blank none)).1.window.generation <
        ((((fresh .default).run es).1.take (.update clue .blank none)).1.step
          (.frame guessedFrame)).1.window.generation) ∧
      Countdown.initial (((((fresh .default).run es).1.take (.update clue .blank none)).1.run
        [.frame guessedFrame]).1.latest.game.buzzTime.getD Settings.default.limits.buzz)
        = some 3 := by decide +kernel
  have hcoupled : (((fresh .default).run es).1.take (.update clue .blank none)).1.Coupled :=
    (coupled_run .default es).update hgoes clue .blank none
  have hopening := buzzing_opens .default es hgoes (g := clue) rfl rfl .blank none
  -- what the run leads to is known by now and need not be computed again
  generalize ((fresh .default).run es).1 = c at *
  have hreopens : c.Reopens clue := .closed hclosed
  have hundisturbed : (c.take (.update clue .blank none)).1.Undisturbed
      (c.window.generation + 1) [.frame guessedFrame] := by
    intro pre e post hes
    cases pre with
    | cons f fs => simp at hes
    | nil =>
      cases hes
      exact ⟨mt (displaces_iff hcoupled hwindow _).mp hstays, nofun⟩
  obtain ⟨hblocks, -, -⟩ := hopening
  obtain ⟨⟨-, hblocked, -, -⟩, hopens⟩ := hblocks hreopens rfl
  obtain ⟨⟨hkept, -, -⟩, -, -, hopen⟩ := hopens _ hundisturbed
  rw [hfirst] at hopen
  exact ⟨hreopens, hblocked, hguessed, (congrArg BuzzWindow.status hkept).trans hblocked,
    hopen.status, hopen.shown.trans hthree⟩

end Client

end QuizClient
