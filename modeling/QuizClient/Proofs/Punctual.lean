import QuizClient.Proofs.Buzzing
import QuizClient.Proofs.Clock
import QuizClient.Proofs.Ownership

/-!
# Timers on time

A countdown that starts at a moment shows at every later one how many whole seconds are
left of it, and a clue that takes some time to read keeps buzzing blocked for exactly that
time and then starts the countdown of the buzzing.  Each tick asks for the next one a
second later, and it does so in the moment in which it was due, so nothing drifts however
many alarms of other timelines, or stale ones of the same, come in between.

## Main definitions

* `Session.Moves` — what a move of time does while the host goes on.
* `Session.Ticks` — how far a countdown has come.
* `Session.Reads` — how far an entry to the buzz window has come.

## Main results

* `mem_of_armed` — a timeline that a frame starts has its alarm in the schedule.
* `Ticks.step`, `Reads.step` — every move of time keeps both on time.
* `timers_follow_clock` — **timers follow the clock, in every session.**
-/

namespace QuizClient

namespace BuzzWindow

/-- An entry with something to read is a first attempt, and takes the time to read its
clue. -/
theorem delay_of_enter {w : BuzzWindow} {g : Game} {pace : ReadingPace} {d : Duration}
    (h : (w.enter g pace).2.1 = some d) : g.firstAttempt = true ∧ d = pace.delay g.clue := by
  unfold enter at h
  split at h
  · next hfirst => exact ⟨hfirst, (Option.some.inj h).symm⟩
  · cases h

end BuzzWindow

namespace Client

/-- A frame that blocks the window anew leaves the countdown ready to start. -/
theorem unpaused_of_receive {c : Client} (hc : c.Coupled) {text : String} {n : Nat}
    (hnew : c.window.generation < n) (hb : (c.receive text).1.window.stage = .blocked n) :
    (c.receive text).1.countdown.paused = false := by
  have hsame : c.window.stage ≠ .blocked n := fun h => Nat.lt_irrefl n (hc.current n h ▸ hnew)
  cases received c text with
  | ignored h =>
    rw [h] at hb
    exact absurd hb hsame
  | shown a h =>
    rw [h] at hb
    exact absurd hb hsame
  | rejected a h =>
    rw [h] at hb
    exact absurd hb hsame
  | unauthorized a h =>
    rw [h] at hb
    cases hb
  | distrusted e h =>
    rw [h] at hb
    cases hb
  | updated g p advisory _ _ h =>
    have hopen := ((hc.receive text).stage_iff.mp (by simp [hb])).2.1
    rw [h] at hopen ⊢
    rw [update_paused]
    simpa using hopen

/-- A window that is open stays open when an alarm comes. -/
theorem open_of_alarm {c : Client} (ho : c.window.stage = .open) (a : Alarm) :
    (c.alarm a).1.window.stage = .open := by
  cases rang c a with
  | stale h => rwa [h]
  | faded s m _ h => rwa [h]
  | ticked r n _ _ h =>
    rw [h]
    split
    · exact ho
    · exact ho
  | opened n _ hb _ =>
    rw [ho] at hb
    cases hb

/-- While the window is open no alarm starts a countdown. -/
theorem idle_of_alarm {c : Client} (ho : c.window.stage = .open)
    (hidle : c.countdown.display = .idle) (a : Alarm) :
    (c.alarm a).1.countdown.display = .idle := by
  cases rang c a with
  | stale h => rwa [h]
  | faded s m _ h => rwa [h]
  | ticked r n _ hr _ =>
    rw [hidle] at hr
    cases hr
  | opened n _ hb _ =>
    rw [ho] at hb
    cases hb

end Client

namespace Session

variable {settings : Settings} {s t u : Session}

/-! ### The client of a session -/

/-- A running countdown of a session belongs to its owner. -/
theorem Timely.owned (h : Timely settings s) : s.host.client.Owned := by
  obtain ⟨es, hes⟩ := h.client
  exact hes ▸ Client.owned_run settings es

/-- The window and the countdown of a session go together. -/
theorem Timely.coupled (h : Timely settings s) : s.host.client.Coupled := by
  obtain ⟨es, hes⟩ := h.client
  exact hes ▸ Client.coupled_run settings es

/-- The client of a session keeps its settings. -/
theorem Timely.settings_eq (h : Timely settings s) : s.host.client.settings = settings := by
  obtain ⟨es, hes⟩ := h.client
  exact hes ▸ Client.settings_run settings es

/-! ### Frames -/

/-- What a frame does to a session whose host goes on. -/
theorem handle_frame (hs : s.host.stopped = false) (text : String) :
    (s.handle [.frame text]).1.host.client = (s.host.client.receive text).1 ∧
      (s.handle [.frame text]).1.schedule
        = s.schedule.add s.now (s.host.client.receive text).2.2 := by
  rw [handle_singleton]
  cases hn : (s.host.client.receive text).2.1.navigate.isSome with
  | true => simp [Host.turn, Host.step, hs, hn, Host.publish, Host.stop, Effects.wake]
  | false => simp [Host.turn, Host.step, hs, hn, Host.publish, Effects.wake]

/-- A frame that stops the host leaves no timer. -/
theorem idle_of_stopped (hs : s.host.stopped = false) {text : String}
    (ht : (s.handle [.frame text]).1.host.stopped = true) :
    (s.handle [.frame text]).1.host.client.countdown.display = .idle ∧
      (s.handle [.frame text]).1.host.client.window.stage = .closed := by
  rw [(handle_frame hs text).1]
  rw [handle_singleton] at ht
  obtain ⟨hh, code, message, hi⟩ := (Host.stops_iff hs _).mp ht
  rw [Client.receive_of_ok hh hi, Client.take_unauthorized]
  exact ⟨rfl, rfl⟩

/-- A timeline that a frame starts has its alarm in the schedule, after its delay. -/
theorem mem_of_armed (h : Timely settings s) (hs : s.host.stopped = false) {text : String}
    (hgoes : (s.handle [.frame text]).1.host.stopped = false) {l : Timeline} {n : Nat}
    (hnew : (s.host.client.position l).generation < n)
    (hdue : ((s.handle [.frame text]).1.host.client.position l).standing = .due n) :
    (s.now + ((s.handle [.frame text]).1.host.client.delay l).nanos, ⟨l, n⟩)
      ∈ (s.handle [.frame text]).1.schedule := by
  have ht : Timely settings (s.handle [.frame text]).1 := h.frame text
  obtain ⟨hclient, hschedule⟩ := handle_frame hs text
  -- the alarm is there, and it was not there before
  have hone : (s.handle [.frame text]).1.schedule.alarms.count ⟨l, n⟩ = 1 :=
    ((ht.attends hgoes).1 l).due n hdue
  have hnone : s.schedule.alarms.count ⟨l, n⟩ = 0 := ((h.attends hs).1 l).beyond n hnew
  obtain ⟨e, he, halarm⟩ := List.mem_map.mp (List.count_pos_iff.mp (hone ▸ Nat.one_pos))
  rw [hschedule] at he ⊢
  rcases Schedule.mem_add.mp he with hold | ⟨w, hw, rfl⟩
  · exact absurd (halarm ▸ List.mem_map_of_mem hold) (List.count_eq_zero.mp hnone)
  · have halarm : w.alarm = ⟨l, n⟩ := halarm
    refine Schedule.mem_add.mpr (.inr ⟨w, hw, ?_⟩)
    rw [Client.receive_timed s.host.client text w hw, halarm, hclient]

/-! ### The moves of time -/

/-- What a move of time does to a session whose host goes on. -/
inductive Moves (s t : Session) : Prop
  /-- An alarm is handed back in its moment, and it was the only one of its kind. -/
  | rang (e : Nat × Alarm) (rest : Schedule) (hp : s.schedule.Perm (e :: rest))
      (hnow : e.1 = s.now) (hsingle : ∀ f ∈ s.schedule, f.2 = e.2 → f = e)
      (h : t =
        { s with
          host := s.host.publish (s.host.client.alarm e.2).1
          schedule := rest.add s.now (s.host.client.alarm e.2).2.2 })
  /-- The clock goes on. -/
  | waited (moment : Nat) (hle : s.now ≤ moment) (h : t = { s with now := moment })

/-- No two alarms of a schedule are the same. -/
theorem eq_of_same_alarm (h : Timely settings s) (hs : s.host.stopped = false) {e f : Nat × Alarm}
    {rest : Schedule} (hp : s.schedule.Perm (e :: rest)) (hf : f ∈ s.schedule) (ha : f.2 = e.2) :
    f = e := by
  rcases List.mem_cons.mp (hp.mem_iff.mp hf) with rfl | hrest
  · rfl
  · have hsingle : s.schedule.alarms.count e.2 ≤ 1 :=
      ((h.attends hs).1 e.2.timeline).single e.2.generation
    have htwice : s.schedule.alarms.count e.2 = rest.alarms.count e.2 + 1 :=
      ((hp.map Prod.snd).count_eq e.2).trans List.count_cons_self
    have hmem : e.2 ∈ rest.alarms := ha ▸ List.mem_map_of_mem hrest
    have hthere := List.count_pos_iff.mpr hmem
    omega

theorem moves (h : Timely settings s) (hs : s.host.stopped = false) (hl : Lapse s t) :
    Moves s t := by
  cases hl with
  | wait hle _ => exact .waited _ hle rfl
  | @deliver e rest hp hdue =>
    refine .rang e rest hp ?_ (fun f hf ha => eq_of_same_alarm h hs hp hf ha) ?_
    · exact Nat.le_antisymm hdue (h.onTime e (hp.mem_iff.mpr (List.mem_cons_self ..)))
    · exact handle_alarm (s := { s with schedule := rest }) h.client hs (h.attends hs).2 e.2

/-- An alarm that is not the one handed back stays in the schedule. -/
theorem mem_of_moved {e f : Nat × Alarm} {rest : Schedule} (hp : s.schedule.Perm (e :: rest))
    (hf : f ∈ s.schedule) (hne : f.2 ≠ e.2) (wakes : List Wake) :
    f ∈ rest.add s.now wakes := by
  rcases List.mem_cons.mp (hp.mem_iff.mp hf) with rfl | hrest
  · exact absurd rfl hne
  · exact Schedule.mem_add.mpr (.inl hrest)

/-- What every move of time keeps, while the host goes on, holds at any later time. -/
theorem of_passes {P : Session → Prop}
    (hstep : ∀ {s t : Session}, Timely settings s → P s → Moves s t → P t)
    (h : Timely settings s) (hs : s.host.stopped = false) (hP : P s) (hp : s.Passes u) :
    Timely settings u ∧ u.host.stopped = false ∧ P u := by
  induction hp with
  | refl => exact ⟨h, hs, hP⟩
  | tail _ hl ih =>
    obtain ⟨htimely, hgoes, hkept⟩ := ih
    have hmoves := moves htimely hgoes hl
    refine ⟨htimely.lapse hl, ?_, hstep htimely hkept hmoves⟩
    cases hmoves with
    | rang e rest _ _ _ h =>
      rw [h]
      exact hgoes
    | waited moment _ h =>
      rw [h]
      exact hgoes

/-! ### Countdowns -/

/-- How far a countdown of some seconds has come that started at a moment. -/
inductive Ticks (start n g : Nat) (s : Session) : Prop
  /-- Some seconds are over, and the tick of the next one is to come. -/
  | running (j : Nat) (hj : j < n) (hle : start + j * nanosPerSecond ≤ s.now)
      (hd : s.host.client.countdown.display = .running (n - j) g)
      (he : (start + (j + 1) * nanosPerSecond, ⟨.countdown, g⟩) ∈ s.schedule)
  /-- All of them are over. -/
  | finished (hle : start + n * nanosPerSecond ≤ s.now)
      (hd : s.host.client.countdown.display = .expired)

namespace Ticks

variable {start n g : Nat}

theorem ne_idle (h : Ticks start n g s) : s.host.client.countdown.display ≠ .idle := by
  cases h with
  | running _ _ _ hd _ => simp [hd]
  | finished _ hd => simp [hd]

/-- An alarm that leaves the countdown alone leaves it on time. -/
theorem rang_other (h : Ticks start n g s) {e : Nat × Alarm} {rest : Schedule}
    (hp : s.schedule.Perm (e :: rest)) {c : Client} (hc : c.countdown = s.host.client.countdown)
    (hne : ∀ r, s.host.client.countdown.display = .running r g → e.2 ≠ ⟨.countdown, g⟩)
    (wakes : List Wake) :
    Ticks start n g
      { s with host := s.host.publish c, schedule := rest.add s.now wakes } := by
  cases h with
  | running j hj hle hd he =>
    refine .running j hj hle ?_ (mem_of_moved hp he (fun heq => hne _ hd heq.symm) wakes)
    exact (congrArg _ hc).trans hd
  | finished hle hd => exact .finished hle ((congrArg _ hc).trans hd)

/-- A tick in its moment counts one second more. -/
theorem ticked {j : Nat} (rest : Schedule) (hj : j < n)
    (hd : s.host.client.countdown.display = .running (n - j) g)
    (hmoment : start + (j + 1) * nanosPerSecond = s.now) :
    Ticks start n g
      { s with
        host := s.host.publish (s.host.client.alarm ⟨.countdown, g⟩).1
        schedule := rest.add s.now (s.host.client.alarm ⟨.countdown, g⟩).2.2 } := by
  by_cases hlast : n - j ≤ 1
  · have hn : n = j + 1 := by omega
    refine .finished (hn ▸ Nat.le_of_eq hmoment) ?_
    simp [Client.alarm, Countdown.tick, Host.publish, hd, hlast]
  · have hc : s.host.client.alarm ⟨.countdown, g⟩ =
        ({ s.host.client with countdown :=
          { s.host.client.countdown with display := .running (n - j - 1) g } }, true,
          [Countdown.tickWake g]) := by
      simp [Client.alarm, Countdown.tick, hd, hlast]
    rw [hc]
    refine .running (j + 1) (by omega) (Nat.le_of_eq hmoment) rfl ?_
    rw [Nat.succ_mul (j + 1), ← Nat.add_assoc, hmoment]
    exact Schedule.tick_mem_add rest s.now g

/-- **Every move of time keeps a countdown on time.** -/
theorem step (hs : Timely settings s) (h : Ticks start n g s) (hm : Moves s t) :
    Ticks start n g t := by
  cases hm with
  | waited moment hle ht =>
    subst ht
    cases h with
    | running j hj hj' hd he => exact .running j hj (Nat.le_trans hj' hle) hd he
    | finished hn hd => exact .finished (Nat.le_trans hn hle) hd
  | rang e rest hp hnow hsingle ht =>
    subst ht
    cases Client.rang s.host.client e.2 with
    | stale hr =>
      rw [hr]
      refine h.rang_other hp rfl (fun r hd he => ?_) []
      -- a tick of the countdown that runs would have changed something
      have hchanged := (Client.alarm_changes_iff s.host.client ⟨.countdown, g⟩).mpr
        ((Client.countdown_due_iff _ g).mpr ⟨r, hd⟩)
      rw [← he, hr] at hchanged
      cases hchanged
    | opened m _ hb _ => exact absurd (hs.coupled.idle m hb) h.ne_idle
    | faded sc m ht hr =>
      rw [hr]
      refine h.rang_other hp ?_ (fun _ _ he => ?_) []
      · rfl
      rw [he] at ht
      rcases ht with ht | ht <;> cases ht
    | ticked r m ha hr _ =>
      cases h with
      | finished _ hd =>
        rw [hd] at hr
        cases hr
      | running j hj hle hd he =>
        rw [hd] at hr
        cases hr
        -- the tick is the one that was to come, and it comes in its moment
        have hmoment : start + (j + 1) * nanosPerSecond = s.now := by
          rw [← hnow, ← hsingle _ he ha.symm]
        rw [ha]
        exact ticked rest hj hd hmoment

/-- What a countdown shows once everything that is due was handed back. -/
theorem remaining (h : Ticks start n g s) (hset : s.Settled) :
    s.host.client.countdown.remaining
      = some (n - min n ((s.now - start) / nanosPerSecond)) := by
  cases h with
  | running j hj hle hd he =>
    have hlt := hset _ he
    have hj' : (s.now - start) / nanosPerSecond = j := by
      refine Nat.div_eq_of_lt_le ?_ ?_
      · omega
      · exact Nat.sub_lt_left_of_lt_add (Nat.le_trans (Nat.le_add_right _ _) hle) hlt
    rw [Countdown.remaining, hd, hj', Nat.min_eq_right (Nat.le_of_lt hj)]
  | finished hle hd =>
    have hn : n ≤ (s.now - start) / nanosPerSecond :=
      (Nat.le_div_iff_mul_le (by decide)).mpr (Nat.le_sub_of_add_le' hle)
    rw [Countdown.remaining, hd, Nat.min_eq_left hn, Nat.sub_self]

end Ticks

/-! ### Reading times -/

/-- How far an entry to the buzz window has come that opens at a moment, for a time to
buzz. -/
inductive Reads (opens g : Nat) (d : Duration) (s : Session) : Prop
  /-- The clue is being read. -/
  | blocked (hb : s.host.client.window.stage = .blocked g)
      (hidle : s.host.client.countdown.display = .idle)
      (hpaused : s.host.client.countdown.paused = false) (hd : s.host.client.buzzTime = d)
      (he : (opens, ⟨.reading, g⟩) ∈ s.schedule)
  /-- Buzzing is open, and there is no time to show. -/
  | untimed (hle : opens ≤ s.now) (ho : s.host.client.window.stage = .open)
      (hzero : d.roundUp = 0) (hidle : s.host.client.countdown.display = .idle)
  /-- Buzzing is open, and its time is shown. -/
  | timed (m : Nat) (hle : opens ≤ s.now) (ho : s.host.client.window.stage = .open)
      (hpos : d.roundUp ≠ 0) (ht : Ticks opens d.roundUp m s)

namespace Reads

variable {opens g : Nat} {d : Duration}

/-- The alarm of the reading time opens the window in its moment. -/
theorem opened {e : Nat × Alarm} (rest : Schedule) (hnow : e.1 = s.now)
    (hsingle : ∀ f ∈ s.schedule, f.2 = e.2 → f = e)
    (hb : s.host.client.window.stage = .blocked g)
    (hidle : s.host.client.countdown.display = .idle)
    (hpaused : s.host.client.countdown.paused = false) (hd : s.host.client.buzzTime = d)
    (he : (opens, ⟨.reading, g⟩) ∈ s.schedule) (ha : e.2 = ⟨.reading, g⟩) :
    Reads opens g d
      { s with
        host := s.host.publish (s.host.client.alarm e.2).1
        schedule := rest.add s.now (s.host.client.alarm e.2).2.2 } := by
  have hmoment : opens = s.now := by
    rw [← hnow, ← hsingle _ he ha.symm]
  have hle : opens ≤ s.now := Nat.le_of_eq hmoment
  rw [ha, Client.alarm_reading_of_due hb, hd]
  by_cases hzero : d.roundUp = 0
  · rw [Client.startCountdown_of_refused (.inr hzero)]
    exact .untimed hle rfl hzero hidle
  · have hpaused : { s.host.client with
        window := { s.host.client.window with stage := .open } }.countdown.paused = false := hpaused
    rw [Client.startCountdown_of_accepted hpaused hzero]
    refine .timed _ hle rfl hzero
      (.running 0 (Nat.pos_of_ne_zero hzero) (by simpa using hle) rfl ?_)
    rw [hmoment, Nat.zero_add, Nat.one_mul]
    exact Schedule.tick_mem_add rest s.now _

/-- An alarm that is not the one of the reading time leaves the window blocked. -/
theorem blocked_other {e : Nat × Alarm} {rest : Schedule} (hp : s.schedule.Perm (e :: rest))
    (hb : s.host.client.window.stage = .blocked g)
    (hidle : s.host.client.countdown.display = .idle)
    (hpaused : s.host.client.countdown.paused = false) (hd : s.host.client.buzzTime = d)
    (he : (opens, ⟨.reading, g⟩) ∈ s.schedule) (hne : e.2 ≠ ⟨.reading, g⟩) :
    Reads opens g d
      { s with
        host := s.host.publish (s.host.client.alarm e.2).1
        schedule := rest.add s.now (s.host.client.alarm e.2).2.2 } := by
  have hstays := mem_of_moved hp he hne.symm
  cases Client.rang s.host.client e.2 with
  | stale hr =>
    rw [hr]
    exact .blocked hb hidle hpaused hd (hstays _)
  | faded sc m _ hr =>
    rw [hr]
    exact .blocked hb hidle hpaused hd (hstays _)
  | ticked r m _ hr _ =>
    rw [hidle] at hr
    cases hr
  | opened m ha hm _ =>
    rw [hb] at hm
    cases hm
    exact absurd ha hne

/-- **Every move of time keeps an entry to the buzz window on time.** -/
theorem step (hs : Timely settings s) (h : Reads opens g d s) (hm : Moves s t) :
    Reads opens g d t := by
  cases h with
  | blocked hb hidle hpaused hd he =>
    cases hm with
    | waited moment _ heq =>
      subst heq
      exact .blocked hb hidle hpaused hd he
    | rang e rest hp hnow hsingle heq =>
      subst heq
      by_cases ha : e.2 = ⟨.reading, g⟩
      · exact opened rest hnow hsingle hb hidle hpaused hd he ha
      · exact blocked_other hp hb hidle hpaused hd he ha
  | untimed hle ho hzero hidle =>
    cases hm with
    | waited moment hmoment heq =>
      subst heq
      exact .untimed (Nat.le_trans hle hmoment) ho hzero hidle
    | rang e rest hp hnow hsingle heq =>
      subst heq
      exact .untimed hle (Client.open_of_alarm ho e.2) hzero (Client.idle_of_alarm ho hidle e.2)
  | timed m hle ho hpos ht =>
    have hticks := ht.step hs hm
    cases hm with
    | waited moment hmoment heq =>
      subst heq
      exact .timed m (Nat.le_trans hle hmoment) ho hpos hticks
    | rang e rest hp hnow hsingle heq =>
      subst heq
      exact .timed m hle (Client.open_of_alarm ho e.2) hpos hticks

/-- What is shown while the clue is being read, once everything that is due was handed
back. -/
theorem shown_before (h : Reads opens g d s) (hnow : s.now < opens) :
    s.host.client.view.window = .blocked ∧ s.host.client.view.countdown = none ∧
      s.host.client.view.permissions.buzz = false := by
  cases h with
  | blocked hb hidle _ _ _ =>
    have hblocked : s.host.client.window.status = .blocked :=
      (BuzzWindow.status_eq_blocked_iff _).mpr ⟨g, hb⟩
    refine ⟨hblocked, ?_, ?_⟩
    · show s.host.client.countdown.remaining = none
      rw [Countdown.remaining, hidle]
    · show s.host.client.permissions.buzz = false
      simp [Client.permissions, Latest.permissions, BuzzWindow.isBlocked, hblocked]
  | untimed hle _ _ _ => omega
  | timed _ hle _ _ _ => omega

/-- What is shown from the moment on in which buzzing opens, once everything that is due
was handed back. -/
theorem shown_after (h : Reads opens g d s) (hset : s.Settled) (hnow : opens ≤ s.now) :
    s.host.client.view.window = .open ∧
      s.host.client.view.countdown =
        if d.roundUp = 0 then none
        else some (d.roundUp - min d.roundUp ((s.now - opens) / nanosPerSecond)) := by
  cases h with
  | blocked _ _ _ _ he => exact absurd (hset _ he) (Nat.not_lt_of_le hnow)
  | untimed _ ho hzero hidle =>
    refine ⟨(BuzzWindow.status_eq_open_iff _).mpr ho, ?_⟩
    rw [if_pos hzero]
    show s.host.client.countdown.remaining = none
    rw [Countdown.remaining, hidle]
  | timed m _ ho hpos ht =>
    refine ⟨(BuzzWindow.status_eq_open_iff _).mpr ho, ?_⟩
    rw [if_neg hpos]
    exact ht.remaining hset

end Reads

/-! ### The main result -/

/-- A frame that starts a timer reaches a host that goes on before and after it. -/
theorem goes_of_started (h : Timely settings s) {text : String}
    (hnew : (∃ n, (s.handle [.frame text]).1.host.client.countdown.display =
        .running n (s.host.client.countdown.generation + 1)) ∨
      (s.handle [.frame text]).1.host.client.window.stage =
        .blocked (s.host.client.window.generation + 1)) :
    s.host.stopped = false ∧ (s.handle [.frame text]).1.host.stopped = false := by
  cases hs : s.host.stopped with
  | true =>
    -- a host that has stopped takes no frame, so nothing is of a later generation
    rw [handle_of_stopped hs] at hnew
    rcases hnew with ⟨n, hn⟩ | hb
    · exact absurd (h.owned.current _ _ hn).2 (Nat.succ_ne_self _)
    · exact absurd (h.coupled.current _ hb) (Nat.succ_ne_self _)
  | false =>
    refine ⟨rfl, ?_⟩
    by_contra ht
    obtain ⟨hidle, hclosed⟩ := idle_of_stopped hs (Bool.not_eq_false _ ▸ ht)
    rcases hnew with ⟨n, hn⟩ | hb
    · rw [hidle] at hn
      cases hn
    · rw [hclosed] at hb
      cases hb

/-- A countdown that a frame starts is on time. -/
theorem ticks_of_started (h : Timely settings s) {text : String} {n : Nat}
    (hn : (s.handle [.frame text]).1.host.client.countdown.display =
      .running n (s.host.client.countdown.generation + 1)) :
    Ticks s.now n (s.host.client.countdown.generation + 1) (s.handle [.frame text]).1 := by
  obtain ⟨hs, hgoes⟩ := goes_of_started h (.inl ⟨n, hn⟩)
  have hnew : (s.host.client.position .countdown).generation
      < s.host.client.countdown.generation + 1 := Nat.lt_succ_self _
  have hmem := mem_of_armed h hs hgoes hnew ((Client.countdown_due_iff _ _).mpr ⟨n, hn⟩)
  refine .running 0 ((h.frame text).owned.current n _ hn).1 ?_ hn ?_
  · rw [Nat.zero_mul]
    exact Nat.le_refl s.now
  · rw [Nat.zero_add, Nat.one_mul]
    rw [Client.delay_countdown, Countdown.nanos_tickInterval] at hmem
    exact hmem

/-- An entry to a window that a frame makes is on time. -/
theorem reads_of_entered (h : Timely settings s) {text : String} {d : Duration}
    (hw : (s.handle [.frame text]).1.host.client.window =
      (s.host.client.window.enter (s.handle [.frame text]).1.host.client.latest.game
        settings.pace).1)
    (hd : (s.host.client.window.enter (s.handle [.frame text]).1.host.client.latest.game
      settings.pace).2.1 = some d) :
    Reads (s.now + d.nanos) (s.host.client.window.generation + 1)
      (s.handle [.frame text]).1.host.client.buzzTime (s.handle [.frame text]).1 := by
  obtain ⟨hfirst, hread⟩ := BuzzWindow.delay_of_enter hd
  have hb : (s.handle [.frame text]).1.host.client.window.stage =
      .blocked (s.host.client.window.generation + 1) := by
    rw [hw, BuzzWindow.stage_enter, if_pos hfirst]
  obtain ⟨hs, hgoes⟩ := goes_of_started h (.inr hb)
  have htimely := h.frame text
  have hnew : (s.host.client.position .reading).generation
      < s.host.client.window.generation + 1 := Nat.lt_succ_self _
  have hmem := mem_of_armed h hs hgoes hnew ((Client.reading_due_iff _ _).mpr hb)
  rw [Client.delay, htimely.settings_eq, ← hread] at hmem
  refine .blocked hb (htimely.coupled.idle _ hb) ?_ rfl hmem
  rw [(handle_frame hs text).1] at hb ⊢
  exact Client.unpaused_of_receive h.coupled (Nat.lt_succ_self _) hb

/-- **Timers follow the clock**, in every session.  After a frame the clock can be advanced
to any later moment, and there everything that is due has been handed back.  If the frame
started a countdown of some seconds, it shows at every later moment how many whole seconds
are left.  If it entered a buzz window with a time to read the clue, the window is blocked
until that time is over, with no countdown and no right to buzz, and open from then on, with
the countdown of the time to buzz.  All this is so in whatever order alarms that are due
together come back, and whatever other alarms come back in between. -/
theorem timers_follow_clock (hs : s.Reachable settings) (text : String) :
    let t := (s.handle [.frame text]).1
    let entry := s.host.client.window.enter t.host.client.latest.game settings.pace
    t.now = s.now ∧
    (∀ u d, t.Passes u →
      t.Passes (u.advance d).1 ∧ (u.advance d).1.Settled ∧
        (u.advance d).1.now = u.now + d.nanos) ∧
    (∀ n, t.host.client.countdown.display =
        .running n (s.host.client.countdown.generation + 1) →
      ∀ u, t.Passes u → u.Settled →
        u.host.published.countdown = some (n - min n ((u.now - s.now) / nanosPerSecond))) ∧
    ∀ d, t.host.client.window = entry.1 → entry.2.1 = some d →
      ∀ u, t.Passes u → u.Settled →
        (u.now < s.now + d.nanos →
          u.host.published.window = .blocked ∧ u.host.published.countdown = none ∧
            u.host.published.permissions.buzz = false) ∧
        (s.now + d.nanos ≤ u.now →
          let n := t.host.client.buzzTime.roundUp
          u.host.published.window = .open ∧
            u.host.published.countdown =
              if n = 0 then none
              else some (n - min n ((u.now - (s.now + d.nanos)) / nanosPerSecond))) := by
  intro t entry
  have h : Timely settings s := timely hs
  have ht : Timely settings t := h.frame text
  refine ⟨rfl, fun u d hu => ?_, fun n hn u hu hset => ?_, fun d hw hd u hu hset => ?_⟩
  · obtain ⟨hpasses, hset, hnow⟩ := passes_advance (ht.passes hu) d
    exact ⟨hu.trans hpasses, hset, hnow⟩
  · obtain ⟨-, hgoes⟩ := goes_of_started h (.inl ⟨n, hn⟩)
    obtain ⟨hlater, hgoing, hticks⟩ :=
      of_passes Ticks.step ht hgoes (ticks_of_started h hn) hu
    have hshown : u.host.published.Reorders u.host.client.view := (hlater.attends hgoing).2
    rw [hshown.countdown_eq]
    exact hticks.remaining hset
  · have hreads : Reads (s.now + d.nanos) _ t.host.client.buzzTime t := reads_of_entered h hw hd
    have hb : t.host.client.window.stage = .blocked (s.host.client.window.generation + 1) := by
      rw [hw, BuzzWindow.stage_enter, if_pos (BuzzWindow.delay_of_enter hd).1]
    obtain ⟨-, hgoes⟩ := goes_of_started h (.inr hb)
    obtain ⟨hlater, hgoing, hlast⟩ := of_passes Reads.step ht hgoes hreads hu
    have hshown : u.host.published.Reorders u.host.client.view := (hlater.attends hgoing).2
    rw [hshown.window_eq, hshown.countdown_eq, hshown.permissions_eq]
    exact ⟨hlast.shown_before, hlast.shown_after hset⟩

/-- A countdown of ten seconds shows seven after three and a half; a clue that takes a second
to read blocks the window after half a second; and after two and a half the ten seconds of
buzzing show nine. -/
theorem shown_between_ticks :
    (((fresh .default .unlimited).handle [.frame (pickFrame false)]).1.advance
      (.ofMillis 3500)).1.host.published.countdown = some 7 ∧
    (((fresh .default .unlimited).handle [.frame Client.buzzFrame]).1.advance
      (.ofMillis 500)).1.host.published.window = .blocked ∧
    (((fresh .default .unlimited).handle [.frame Client.buzzFrame]).1.advance
      (.ofMillis 2500)).1.host.published.countdown = some 9 := by
  have hs : (fresh .default .unlimited).Reachable .default := .fresh .unlimited
  refine ⟨?_, ?_, ?_⟩
  · obtain ⟨-, hadvance, hticks, -⟩ := timers_follow_clock hs (pickFrame false)
    obtain ⟨hpasses, hset, hnow⟩ := hadvance _ (.ofMillis 3500) .refl
    rw [hticks 10 (by decide +kernel) _ hpasses hset, hnow]
    decide +kernel
  · obtain ⟨-, hadvance, -, hreads⟩ := timers_follow_clock hs Client.buzzFrame
    obtain ⟨hpasses, hset, hnow⟩ := hadvance _ (.ofMillis 500) .refl
    obtain ⟨hblocked, -⟩ :=
      hreads (.ofSeconds 1) (by decide +kernel) (by decide +kernel) _ hpasses hset
    rw [hnow] at hblocked
    exact (hblocked (by decide +kernel)).1
  · obtain ⟨-, hadvance, -, hreads⟩ := timers_follow_clock hs Client.buzzFrame
    obtain ⟨hpasses, hset, hnow⟩ := hadvance _ (.ofMillis 2500) .refl
    obtain ⟨-, hopen⟩ :=
      hreads (.ofSeconds 1) (by decide +kernel) (by decide +kernel) _ hpasses hset
    rw [hnow] at hopen
    obtain ⟨-, hshown⟩ := hopen (by decide +kernel)
    rw [hshown]
    decide +kernel

end Session

end QuizClient
