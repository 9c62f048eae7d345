import QuizClient.Proofs.Simultaneous

/-!
# Starting over

A client that starts over behaves as a new one.  Nothing of the old session is
left but how far the generations and the version of the snapshots have gone, and
no operation depends on how far that is: generations are only ever counted on
and compared with one another.  So the client that started over is a new one
whose numbers are shifted, and everything it does is what the new one does,
shifted as well.

## Main definitions

* `Client.shift` — a client whose generations and version are further on.
* `Client.transcript` — what is seen of a client while inputs are fed to it.
* `Client.setup` — what is settled when a client is made.
* `Accounted` — no alarm was asked for of a generation to come.

## Main results

* `step_shift` — an event does to a shifted client what it does to the client.
* `transcript_shift` — what is seen of a shifted client.
* `reset_eq_shift` — a client that starts over is a shifted new one.
* `stale_of_reset` — an alarm asked for before a client starts over is stale.
* `reset_as_new` — **a client that starts over is as good as new.**
-/

namespace QuizClient

variable (k : Timeline → Nat) (v : Nat)

/-! ### Shifted numbers -/

/-- An alarm whose generation is further on. -/
def Alarm.shift (a : Alarm) : Alarm := ⟨a.timeline, a.generation + k a.timeline⟩

/-- An alarm asked for whose generation is further on. -/
def Wake.shift (w : Wake) : Wake := ⟨w.alarm.shift k, w.after⟩

/-- A countdown whose generations are further on. -/
def Countdown.shift (c : Countdown) : Countdown where
  display :=
    match c.display with
    | .idle => .idle
    | .running remaining n => .running remaining (n + k .countdown)
    | .expired => .expired
  generation := c.generation + k .countdown
  paused := c.paused

/-- A buzz window whose generations are further on. -/
def BuzzWindow.shift (w : BuzzWindow) : BuzzWindow where
  stage :=
    match w.stage with
    | .closed => .closed
    | .blocked n => .blocked (n + k .reading)
    | .open => .open
  generation := w.generation + k .reading
  clue := w.clue

/-- Score changes whose generation is further on. -/
def ScoreChanges.shift (s : ScoreChanges) : ScoreChanges :=
  { s with generation := s.generation + k .scores }

/-- Snapshots whose version is further on. -/
def Latest.shift (l : Latest) : Latest := { l with version := l.version + v }

/-- A client whose generations and version are further on. -/
def Client.shift (c : Client) : Client :=
  { c with
    latest := c.latest.shift v
    countdown := c.countdown.shift k
    window := c.window.shift k
    changes := c.changes.shift k
    advisoryGeneration := c.advisoryGeneration + k .advisory }

@[simp] theorem wake_shift (t : Timeline) (n : Nat) (d : Duration) :
    (t.wake n d).shift k = t.wake (n + k t) d := rfl

/-! ### The parts of a client -/

namespace Countdown

@[simp] theorem shift_paused (c : Countdown) : (c.shift k).paused = c.paused := rfl

@[simp] theorem shift_cancel (c : Countdown) : (c.shift k).cancel = c.cancel.shift k := rfl

@[simp] theorem shift_setPaused (c : Countdown) (paused : Bool) :
    (c.shift k).setPaused paused = (c.setPaused paused).shift k := by
  cases paused <;> rfl

@[simp] theorem shift_remaining (c : Countdown) : (c.shift k).remaining = c.remaining := by
  unfold remaining shift
  cases c.display <;> rfl

theorem shift_start (c : Countdown) (d : Duration) :
    (c.shift k).start d = (c.start d).map fun r => (r.1.shift k, r.2.map (·.shift k)) := by
  unfold start
  by_cases hp : c.paused = true
  · simp [hp, Except.map]
  · by_cases hz : d.roundUp = 0
    · simp [hp, hz, Except.map]
    · simp [hp, hz, Except.map, shift, tickWake, Nat.add_right_comm]

theorem shift_tick (c : Countdown) (n : Nat) :
    (c.shift k).tick (n + k .countdown) =
      ((c.tick n).1.shift k, (c.tick n).2.1, (c.tick n).2.2.map (·.shift k)) := by
  unfold tick
  cases h : c.display with
  | idle => simp [shift, h]
  | expired => simp [shift, h]
  | running r g =>
    by_cases hg : g = n
    · by_cases hr : r ≤ 1
      · simp [shift, h, hg, hr]
      · simp [shift, h, hg, hr, tickWake]
    · simp [shift, h, hg]

end Countdown

namespace BuzzWindow

@[simp] theorem shift_status (w : BuzzWindow) : (w.shift k).status = w.status := by
  unfold status shift
  cases w.stage <;> rfl

@[simp] theorem shift_isBlocked (w : BuzzWindow) : (w.shift k).isBlocked = w.isBlocked := by
  simp only [isBlocked, shift_status]

@[simp] theorem shift_isFor (w : BuzzWindow) (clue : Clue) :
    (w.shift k).isFor clue = w.isFor clue := by
  unfold isFor shift
  cases w.stage <;> rfl

@[simp] theorem shift_close (w : BuzzWindow) : (w.shift k).close = w.close.shift k := by
  unfold close shift
  cases w.stage <;> simp [Nat.add_right_comm]

theorem shift_enter (w : BuzzWindow) (g : Game) (pace : ReadingPace) :
    (w.shift k).enter g pace =
      ((w.enter g pace).1.shift k, (w.enter g pace).2.1,
        (w.enter g pace).2.2.map (·.shift k)) := by
  unfold enter
  by_cases h : g.firstAttempt = true
  · simp [h, shift, Nat.add_right_comm]
  · simp [h, shift, Nat.add_right_comm]

theorem shift_elapse (w : BuzzWindow) (n : Nat) :
    (w.shift k).elapse (n + k .reading) = ((w.elapse n).1.shift k, (w.elapse n).2) := by
  unfold elapse
  cases h : w.stage with
  | closed => simp [shift, h]
  | «open» => simp [shift, h]
  | blocked m =>
    by_cases hm : m = n
    · simp [shift, h, hm]
    · simp [shift, h, hm]

end BuzzWindow

namespace ScoreChanges

@[simp] theorem shift_entries (s : ScoreChanges) : (s.shift k).entries = s.entries := rfl

@[simp] theorem shift_clear (s : ScoreChanges) : (s.shift k).clear = s.clear.shift k := by
  simp [clear, shift, Nat.add_right_comm]

theorem shift_observe (s : ScoreChanges) (previous next : List Player) :
    (s.shift k).observe previous next =
      ((s.observe previous next).1.shift k, (s.observe previous next).2.map (·.shift k)) := by
  unfold observe
  cases scoreChanges previous next with
  | nil => rfl
  | cons e es => simp [shift, Nat.add_right_comm]

theorem shift_expire (s : ScoreChanges) (n : Nat) :
    (s.shift k).expire (n + k .scores) = ((s.expire n).1.shift k, (s.expire n).2) := by
  unfold expire
  by_cases h : n = s.generation ∧ s.entries ≠ []
  · simp [shift, h]
  · simp [shift, h]

end ScoreChanges

namespace Latest

@[simp] theorem shift_game (l : Latest) : (l.shift v).game = l.game := rfl

@[simp] theorem shift_phase (l : Latest) : (l.shift v).phase = l.phase := rfl

@[simp] theorem shift_round (l : Latest) : (l.shift v).round = l.round := rfl

@[simp] theorem shift_permissions (l : Latest) (blocked spent halted : Bool) :
    (l.shift v).permissions blocked spent halted = l.permissions blocked spent halted := rfl

@[simp] theorem shift_replace (l : Latest) (g : Game) (p : Player) :
    (l.shift v).replace g p = (l.replace g p).shift v := by
  simp [replace, shift, Nat.add_right_comm]

@[simp] theorem shift_clear (l : Latest) : (l.shift v).clear = l.clear.shift v :=
  shift_replace v l .blank .blank

end Latest

namespace Client

/-! ### The operations of a client -/

/-- What a client becomes and asks for, shifted. -/
def shiftAsking (r : Client × List Wake) : Client × List Wake :=
  (r.1.shift k v, r.2.map (·.shift k))

/-- What a client becomes, says and asks for, shifted. -/
def shiftSaying {α : Type} (r : Client × α × List Wake) : Client × α × List Wake :=
  (r.1.shift k v, r.2.1, r.2.2.map (·.shift k))

section fields

variable (c : Client)

@[simp] theorem shift_settings : (c.shift k v).settings = c.settings := rfl

@[simp] theorem shift_latest : (c.shift k v).latest = c.latest.shift v := rfl

@[simp] theorem shift_countdown : (c.shift k v).countdown = c.countdown.shift k := rfl

@[simp] theorem shift_owner : (c.shift k v).owner = c.owner := rfl

@[simp] theorem shift_window : (c.shift k v).window = c.window.shift k := rfl

@[simp] theorem shift_changes : (c.shift k v).changes = c.changes.shift k := rfl

@[simp] theorem shift_halted : (c.shift k v).halted = c.halted := rfl

@[simp] theorem shift_permissions : (c.shift k v).permissions = c.permissions := by
  simp [permissions, shift]

@[simp] theorem shift_buzzTime : (c.shift k v).buzzTime = c.buzzTime := rfl

@[simp] theorem shift_timing : (c.shift k v).timing = c.timing := by
  unfold timing
  rw [shift_permissions]
  rfl

/-- What is shown of a client does not depend on its numbers. -/
theorem shift_view : (c.shift k v).view = c.view := by
  unfold view
  rw [shift_permissions, shift_countdown, shift_window, Countdown.shift_remaining,
    BuzzWindow.shift_status]
  rfl

end fields

variable (c : Client)

theorem shift_surface (a : Advisory) :
    (c.shift k v).surface a = shiftAsking k v (c.surface a) := by
  unfold surface shiftAsking
  by_cases h : a.kind.isPassing = true
  · simp [h, shift, Nat.add_right_comm]
  · simp [h, shift, Nat.add_right_comm]

theorem shift_cancelCountdown :
    (c.shift k v).cancelCountdown = c.cancelCountdown.shift k v := rfl

theorem shift_stopTimers : (c.shift k v).stopTimers = c.stopTimers.shift k v := by
  simp [stopTimers, cancelCountdown, shift]

theorem shift_startCountdown (p : Phase) (d : Duration) :
    (c.shift k v).startCountdown p d = shiftAsking k v (c.startCountdown p d) := by
  unfold startCountdown
  rw [shift_countdown, Countdown.shift_start]
  cases c.countdown.start d with
  | ok r => rfl
  | error e => rfl

theorem shift_keepTime : (c.shift k v).keepTime = shiftAsking k v c.keepTime := by
  unfold keepTime
  rw [shift_timing]
  cases c.timing with
  | stop => rfl
  | keep => rfl
  | restart d => exact shift_startCountdown k v c c.latest.phase d
  | ensure d =>
    by_cases h : c.owner = some c.latest.phase
    · simp only [if_pos h]
      exact if_pos h
    · simp only [if_neg h]
      exact (if_neg h).trans (shift_startCountdown k v c c.latest.phase d)

theorem shift_halt (e : ProtocolError) :
    (c.shift k v).halt e = shiftAsking k v (c.halt e) := by
  unfold halt
  rw [shift_stopTimers]
  exact shift_surface k v { c.stopTimers with halted := true, disputePrompt := false } e.advisory

theorem shift_discard : (c.shift k v).discard = c.discard.shift k v := by
  unfold discard
  rw [shift_stopTimers]
  simp [shift]

theorem shift_settle : (c.shift k v).settle = c.settle.shift k v := by
  rw [settle_eq, settle_eq]
  simp only [shift, Countdown.shift_cancel, BuzzWindow.shift_close, apply_ite (Countdown.shift k),
    apply_ite (BuzzWindow.shift k)]
  rfl

theorem shift_entered : (c.shift k v).entered = c.entered.shift k v := by
  unfold entered
  rw [shift_cancelCountdown, shift_window, BuzzWindow.shift_enter]
  rfl

theorem shift_enterWindow : (c.shift k v).enterWindow = shiftAsking k v c.enterWindow := by
  have hnew : (c.shift k v).entersAnew = c.entersAnew := by simp [entersAnew]
  cases h : c.entersAnew with
  | false =>
    rw [enterWindow_of_keeps h, enterWindow_of_keeps (hnew.trans h)]
    rfl
  | true =>
    cases hf : c.latest.game.firstAttempt with
    | true =>
      rw [enterWindow_of_first h hf, enterWindow_of_first (hnew.trans h) hf, shift_entered]
      simp [BuzzWindow.shift_enter, shiftAsking]
    | false =>
      rw [enterWindow_of_later h hf, enterWindow_of_later (hnew.trans h) hf, shift_entered,
        shift_buzzTime, shift_startCountdown]

theorem shift_enterPhase (o : Outcome) :
    (c.shift k v).enterPhase o = shiftSaying k v (c.enterPhase o) := by
  by_cases hb : c.latest.phase = .buzz
  · rw [enterPhase_of_buzz hb, enterPhase_of_buzz (c := c.shift k v) hb, shift_enterWindow]
    rfl
  by_cases hd : c.latest.phase = .dispute
  · rw [enterPhase_of_dispute hd, enterPhase_of_dispute (c := c.shift k v) hd, shift_keepTime]
    rfl
  by_cases he : c.latest.phase = .error
  · rw [enterPhase_of_error he, enterPhase_of_error (c := c.shift k v) he, shift_halt]
    rfl
  · rw [enterPhase_of_other hb hd he, enterPhase_of_other (c := c.shift k v) hb hd he,
      shift_keepTime]
    rfl

theorem shift_replace (g : Game) (p : Player) :
    (c.shift k v).replace g p = shiftAsking k v (c.replace g p) := by
  simp [replace, ScoreChanges.shift_observe, shiftAsking, shift]

theorem shift_applied (g : Game) (p : Player) (advisory : Option String) :
    (c.shift k v).applied g p advisory = shiftSaying k v (c.applied g p advisory) := by
  unfold applied
  rw [shift_replace]
  cases advisory with
  | none => simp [adviseUpdate, shiftAsking, shiftSaying, shift]
  | some message =>
    simp only [adviseUpdate, shiftAsking, shift_surface, shiftSaying]
    simp [shift]

theorem shift_update (g : Game) (p : Player) (advisory : Option String) :
    (c.shift k v).update g p advisory = shiftSaying k v (c.update g p advisory) := by
  cases hp : g.paused with
  | true =>
    rw [update_of_paused hp, update_of_paused hp, shift_applied]
    simp [shiftSaying, shift_stopTimers]
    rfl
  | false =>
    rw [update_of_running hp, update_of_running hp, shift_applied]
    simp [shiftSaying, shift_settle, shift_enterPhase]

/-! ### Events -/

theorem shift_take (i : Inbound) : (c.shift k v).take i = shiftSaying k v (c.take i) := by
  cases i with
  | heartbeat => rfl
  | update g p advisory => exact shift_update k v c g p advisory
  | notice code message =>
    by_cases h : message = ""
    · subst h
      rfl
    · rw [take_notice_of_nonempty c code h, take_notice_of_nonempty _ code h, shift_surface]
      rfl
  | failure kind code message =>
    cases kind with
    | rejected =>
      have hs : { c.shift k v with buzzSpent := false }
          = { c with buzzSpent := false }.shift k v := rfl
      rw [take_rejected, take_rejected, hs, shift_surface]
      rfl
    | unauthorized =>
      have hs : { c.discard.shift k v with navigation := some .lobby }
          = { c.discard with navigation := some .lobby }.shift k v := rfl
      rw [take_unauthorized, take_unauthorized, shift_discard, hs, shift_surface]
      rfl
    | serverError =>
      rw [take_serverError, take_serverError, shift_surface]
      rfl

theorem shift_receive (text : String) :
    (c.shift k v).receive text = shiftSaying k v (c.receive text) := by
  cases h : c.halted with
  | true =>
    rw [receive_of_halted h, receive_of_halted (c := c.shift k v) h]
    rfl
  | false =>
    cases hi : Inbound.ofText text with
    | ok i =>
      rw [receive_of_ok h hi, receive_of_ok (c := c.shift k v) h hi]
      exact shift_take k v c i
    | error e =>
      rw [receive_of_error h hi, receive_of_error (c := c.shift k v) h hi, shift_halt]
      rfl

theorem shift_alarm (a : Alarm) :
    (c.shift k v).alarm (a.shift k) = shiftSaying k v (c.alarm a) := by
  obtain ⟨t, n⟩ := a
  cases t with
  | countdown => simp [alarm, Alarm.shift, Countdown.shift_tick, shiftSaying, shift]
  | scores => simp [alarm, Alarm.shift, ScoreChanges.shift_expire, shiftSaying, shift]
  | advisory =>
    by_cases h : n = c.advisoryGeneration ∧ c.advisory.any (·.kind.isPassing) = true
    · simp [alarm, Alarm.shift, shiftSaying, shift, h]
    · simp [alarm, Alarm.shift, shiftSaying, shift, h]
  | reading =>
    by_cases h : c.window.stage = .blocked n
    · have h' : (c.shift k v).window.stage = .blocked (n + k .reading) := by
        simp [BuzzWindow.shift, h]
      have hs : { c.shift k v with window := { (c.shift k v).window with stage := .open } }
          = { c with window := { c.window with stage := .open } }.shift k v := rfl
      rw [Alarm.shift, alarm_reading_of_due h, alarm_reading_of_due h', hs, shift_buzzTime,
        shift_startCountdown]
      rfl
    · have hn : c.window.elapse n = (c.window, false) := by simp [BuzzWindow.elapse, h]
      simp [alarm, Alarm.shift, BuzzWindow.shift_elapse, hn, shiftSaying]

theorem shift_refusal (a : Action) : (c.shift k v).refusal? a = c.refusal? a := by
  unfold refusal?
  rw [shift_permissions]
  rfl

theorem shift_leave : (c.shift k v).leave = c.leave.shift k v := by
  unfold leave
  rw [shift_discard]
  simp [shift, Nat.add_right_comm]

theorem shift_reset : (c.shift k v).reset = c.reset.shift k v := by
  unfold reset
  rw [shift_discard]
  simp [shift, Nat.add_right_comm, -Countdown.setPaused_false]

end Client

/-- An event with the alarm shifted. -/
def Event.shift : Event → Event
  | .alarm a => .alarm (a.shift k)
  | e => e

namespace Client

/-- **An event does to a shifted client what it does to the client.** -/
theorem step_shift (c : Client) (e : Event) :
    (c.shift k v).step (e.shift k) = shiftSaying k v (c.step e) := by
  cases e with
  | frame text =>
    simp only [Event.shift, step_frame, shift_receive]
    rfl
  | alarm a =>
    simp only [Event.shift, step_alarm, shift_alarm]
    rfl
  | action a =>
    cases h : c.refusal? a with
    | some r =>
      rw [step_action_of_refused h]
      exact step_action_of_refused ((shift_refusal k v c a).trans h)
    | none =>
      rw [step_action_of_allowed h]
      exact step_action_of_allowed ((shift_refusal k v c a).trans h)
  | refused r =>
    simp only [Event.shift, step_refused, noteRefusal, shift_surface]
    rfl
  | leave =>
    simp only [Event.shift, step_leave, shift_leave]
    rfl
  | reset =>
    simp only [Event.shift, step_reset, shift_reset]
    rfl

end Client

/-! ### What is seen of a client -/

/-- What is seen of a client at one input. -/
structure Sight where
  /-- What it says. -/
  reply : Reply
  /-- What it shows then. -/
  view : View
  /-- The alarms it asks for. -/
  wakes : List Wake

/-- What is seen when the alarms asked for are further on. -/
def Sight.shift (s : Sight) : Sight := { s with wakes := s.wakes.map (·.shift k) }

/-- What is seen of a client while some inputs are fed to it.  Any alarm that was asked
for meanwhile can come back, any number of times, and is told by its place among them. -/
def Client.transcript (c : Client) (known : List Alarm) : List Stimulus → List Sight
  | [] => []
  | i :: is =>
    match i.event? known with
    | none => c.transcript known is
    | some e =>
      let (d, reply, wakes) := c.step e
      ⟨reply, d.view, wakes⟩ :: d.transcript (known ++ wakes.map (·.alarm)) is

theorem event?_map_shift (known : List Alarm) (i : Stimulus) :
    i.event? (known.map (·.shift k)) = (i.event? known).map (·.shift k) := by
  cases i with
  | wake n => simp [Stimulus.event?, Function.comp_def, Event.shift]
  | _ => rfl

/-- **What is seen of a shifted client** is what is seen of the client, with the alarms
shifted. -/
theorem transcript_shift (c : Client) (known : List Alarm) (inputs : List Stimulus) :
    (c.shift k v).transcript (known.map (·.shift k)) inputs =
      (c.transcript known inputs).map (·.shift k) := by
  induction inputs generalizing c known with
  | nil => rfl
  | cons i is ih =>
    simp only [Client.transcript, event?_map_shift]
    cases i.event? known with
    | none => exact ih c known
    | some e =>
      -- the alarms asked for at this input are known to both from now on
      have hknown : known.map (·.shift k) ++ ((c.step e).2.2.map (·.shift k)).map (·.alarm)
          = (known ++ (c.step e).2.2.map (·.alarm)).map (·.shift k) := by
        simp [Function.comp_def, Wake.shift]
      simp only [Option.map_some, Client.step_shift, Client.shiftSaying, Client.shift_view, hknown,
        ih, List.map_cons, Sight.shift]

/-! ### What never changes -/

/-- What of a client is settled when it is made: its settings, and how long score changes
are shown. -/
def Client.setup (c : Client) : Settings × Duration := (c.settings, c.changes.window)

theorem window_observe (s : ScoreChanges) (previous next : List Player) :
    (s.observe previous next).1.window = s.window := by
  unfold ScoreChanges.observe
  split <;> rfl

namespace Client

theorem setup_update (c : Client) (g : Game) (p : Player) (advisory : Option String) :
    (c.update g p advisory).1.setup = c.setup := by
  simp only [setup, update_settings, update_changes, replace, window_observe]

theorem setup_receive (c : Client) (text : String) : (c.receive text).1.setup = c.setup := by
  cases received c text with
  | ignored h => exact congrArg (·.1.setup) h
  | shown a h => exact congrArg (·.1.setup) h
  | rejected a h => exact congrArg (·.1.setup) h
  | unauthorized a h => exact congrArg (·.1.setup) h
  | distrusted e h => exact congrArg (·.1.setup) h
  | updated g p advisory _ _ h =>
    rw [h]
    exact setup_update c g p advisory

theorem setup_alarm (c : Client) (a : Alarm) : (c.alarm a).1.setup = c.setup := by
  obtain ⟨k, o, w, es, m, ha⟩ := alarm_frame c a
  rw [ha]
  rfl

theorem setup_step (c : Client) (e : Event) : (c.step e).1.setup = c.setup := by
  cases e with
  | frame text => exact setup_receive c text
  | alarm a => exact setup_alarm c a
  | action a =>
    obtain ⟨b, hb, -⟩ := step_action_frame c a
    rw [hb]
    rfl
  | refused r => rfl
  | leave => rfl
  | reset => rfl

theorem setup_run (c : Client) (es : List Event) : (c.run es).1.setup = c.setup :=
  run_invariant (P := fun d => d.setup = c.setup) (fun h e => (setup_step _ e).trans h) rfl es

/-- A new client, shifted. -/
theorem shift_fresh (settings : Settings) :
    (fresh settings).shift k v =
      { fresh settings with
        latest := ⟨.blank, .blank, v⟩
        countdown := ⟨.idle, k .countdown, false⟩
        window := ⟨.closed, k .reading, none⟩
        changes := ⟨[], k .scores, settings.scoreWindow⟩
        advisoryGeneration := k .advisory } := by
  simp [shift, Countdown.shift, BuzzWindow.shift, ScoreChanges.shift, Latest.shift, fresh,
    Countdown.fresh, BuzzWindow.fresh, ScoreChanges.fresh, Latest.fresh]

/-- **A client that starts over is a new one whose numbers are further on.** -/
theorem reset_eq_shift {settings : Settings} {c : Client}
    (h : c.setup = (fresh settings).setup) :
    c.reset = (fresh settings).shift (fun t => (c.reset.position t).generation)
      c.reset.latest.version := by
  obtain ⟨hsettings, hwindow⟩ := Prod.mk.inj h
  obtain rfl : c.settings = settings := hsettings
  have hscores : c.changes.window = c.settings.scoreWindow := hwindow
  rw [shift_fresh, ← hscores]
  rfl

end Client

/-! ### Alarms of before -/

/-- Every timeline of a client expects only what is current, and no alarm was asked for of
a generation to come. -/
def Accounted (c : Client) (wakes : List Wake) : Prop :=
  ∀ t, (c.position t).Sound ∧ ∀ n ∈ asked t wakes, n ≤ (c.position t).generation

theorem accounted_step {c : Client} {wakes : List Wake} (h : Accounted c wakes) (e : Event) :
    Accounted (c.step e).1 (wakes ++ (c.step e).2.2) := by
  intro t
  obtain ⟨hsound, hasked⟩ := h t
  have hprogress := Client.step_progress c e t
  obtain ⟨hle, hns⟩ := hprogress.bounds hsound
  refine ⟨hprogress.sound hsound, fun n hn => ?_⟩
  rw [asked_append, List.mem_append] at hn
  rcases hn with hn | hn
  · exact Nat.le_trans (hasked n hn) hle
  · exact hns n hn

theorem accounted_run (settings : Settings) (es : List Event) :
    Accounted ((Client.fresh settings).run es).1 ((Client.fresh settings).run es).2 := by
  -- the alarms asked for so far are generalized, since a later event asks for more
  have key : ∀ c wakes, Accounted c wakes → Accounted (c.run es).1 (wakes ++ (c.run es).2) := by
    induction es with
    | nil => simp
    | cons e es ih =>
      intro c wakes h
      rw [Client.run_cons, ← List.append_assoc]
      exact ih _ _ (accounted_step h e)
  refine key (.fresh settings) [] fun t => ⟨?_, nofun⟩
  cases t <;> exact nofun

theorem mem_asked {wakes : List Wake} {w : Wake} (h : w ∈ wakes) :
    w.alarm.generation ∈ asked w.alarm.timeline wakes :=
  List.mem_map.mpr ⟨w, List.mem_filter.mpr ⟨h, by simp⟩, rfl⟩

/-- **An alarm asked for before a client starts over is stale** from then on. -/
theorem stale_of_reset {c : Client} {wakes : List Wake} (h : Accounted c wakes) {w : Wake}
    (hw : w ∈ wakes) : Stale c.reset w.alarm := by
  refine ⟨?_, ?_⟩
  · have hle := (h w.alarm.timeline).2 _ (mem_asked hw)
    exact Nat.le_trans hle (Client.reset_leads c w.alarm.timeline).bounds.1
  · -- a client that just started over expects no alarm at all
    cases w.alarm.timeline <;> exact nofun

theorem stale_run {c : Client} {a : Alarm} (h : Stale c a) (es : List Event) :
    Stale (c.run es).1 a :=
  Client.run_invariant (P := fun d => Stale d a) stale_step h es

/-- **A client that starts over is as good as new**, whatever happened to it before.  It
shows what a new client shows; whatever is fed to it from then on, what is seen of it is
what is seen of a new client, up to one shift of the generations of each timeline; and
the alarms of before change nothing, whenever and however often they come back. -/
theorem reset_as_new (settings : Settings) (es : List Event) :
    let c := ((Client.fresh settings).run es).1
    c.reset.view = (Client.fresh settings).view ∧
    (∃ k : Timeline → Nat, ∀ inputs : List Stimulus,
      c.reset.transcript [] inputs =
        ((Client.fresh settings).transcript [] inputs).map (·.shift k)) ∧
    ∀ w ∈ ((Client.fresh settings).run es).2, ∀ later : List Event,
      let d := (c.reset.run later).1
      d.alarm w.alarm = (d, false, []) := by
  intro c
  have hreset := Client.reset_eq_shift (Client.setup_run (.fresh settings) es)
  refine ⟨?_, ⟨fun t => (c.reset.position t).generation, fun inputs => ?_⟩, fun w hw later => ?_⟩
  · rw [hreset]
    exact Client.shift_view _ _ (.fresh settings)
  · -- `rw` with `hreset` would also rewrite inside the shift that is given
    have hshift := transcript_shift (fun t => (c.reset.position t).generation)
      c.reset.latest.version (.fresh settings) [] inputs
    rw [← hreset] at hshift
    exact hshift
  · exact (stale_run (stale_of_reset (accounted_run settings es) hw) later).alarm_eq

end QuizClient
