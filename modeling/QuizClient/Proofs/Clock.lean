import Mathlib.Logic.Relation
import QuizClient.Console.Session
import QuizClient.Proofs.Delays
import QuizClient.Proofs.Pending
import QuizClient.Proofs.Publishing

/-!
# The clock of a session

Time passes in a session by small moves: an alarm that is due is handed back, or the clock
goes on while nothing is due.  The moves may come in any order that the moments of the
alarms allow.  The session that hands back all that falls due up to a moment is one course
of such moves, and its steps suffice, since an alarm asks for one more at most, a second
later.

Whatever reached a session before, no alarm is ever late, and the alarms in its schedule
are those that its client waits for.

## Main definitions

* `Session.Lapse`, `Session.Passes` — time passes, by one move and by any number.
* `Session.Settled` — everything that is due has been handed back.
* `Session.Reachable` — a session that inputs and time lead to.
* `Session.Timely` — what holds of every such session.

## Main results

* `timely` — **no alarm is late, and the schedule is what the client waits for.**
* `passes_advance` — **advancing the clock lets time pass, and settles the session.**
-/

namespace QuizClient

/-! ### Turns and waiting -/

namespace Host

variable {settings : Settings}

/-- While a host goes on its client waits for some alarms, and what it published is
current. -/
def Attends (h : Host) (pending : List Alarm) : Prop :=
  h.stopped = false → Balanced h.client pending ∧ h.Current

/-- What is asked for in a turn other than an alarm is waited for. -/
theorem Attends.turn {h : Host} (hr : Client.Reachable settings h.client)
    {pending : List Alarm} (ha : h.Attends pending) {t : Turn} (ht : ∀ a, t.input ≠ .alarm a) :
    (h.turn t).1.Attends (pending ++ (h.turn t).2.wakes.map (·.alarm)) := by
  intro hgoes
  obtain ⟨hs, hu⟩ := not_unsent_of_turn hgoes
  obtain ⟨hbalanced, hcurrent⟩ := ha hs
  refine ⟨?_, hcurrent.turn hr hs hu⟩
  cases turn_event h t with
  | event e he hc hw =>
    rw [hc, hw]
    exact hbalanced.leads (h.client.step_leads fun a hea => ht a (he a hea))
  | unnoticed hc hw =>
    rw [hc, hw, List.map_nil, List.append_nil]
    exact hbalanced

/-- An alarm publishes what the client shows after it, also when nothing changed. -/
theorem turn_alarm {h : Host} (hr : Client.Reachable settings h.client)
    (hs : h.stopped = false) (hcurrent : h.Current) (sending : Bool) (a : Alarm) :
    h.turn ⟨sending, .alarm a⟩ =
      (h.publish (h.client.alarm a).1, .wake (h.client.alarm a).2.2) := by
  by_cases hdue : (h.client.position a.timeline).standing = .due a.generation
  · have hc : (h.client.alarm a).2.1 = true := (Client.alarm_changes_iff _ _).mpr hdue
    simp [turn, step, hs, hc]
  · have hc : h.client.alarm a = (h.client, false, []) := Client.alarm_eq_of_not_due hdue
    rw [turn_of_unchanged hs sending hc, hc, hcurrent.publish_eq hr]
    rfl

/-- An alarm that is handed back is waited for no more. -/
theorem Attends.alarm {h : Host} (hr : Client.Reachable settings h.client)
    {pending rest : List Alarm} (ha : h.Attends pending) {a : Alarm}
    (hp : pending.Perm (a :: rest)) (sending : Bool) :
    (h.turn ⟨sending, .alarm a⟩).1.Attends
      (rest ++ (h.turn ⟨sending, .alarm a⟩).2.wakes.map (·.alarm)) := by
  intro hgoes
  obtain ⟨hs, -⟩ := not_unsent_of_turn hgoes
  obtain ⟨hbalanced, hcurrent⟩ := ha hs
  rw [turn_alarm hr hs hcurrent]
  exact ⟨hbalanced.alarm hp, hcurrent.publish hr (hr.step (.alarm a))⟩

end Host

/-! ### Schedules -/

@[simp] theorem Countdown.nanos_tickInterval : Countdown.tickInterval.nanos = nanosPerSecond := by
  rw [Countdown.tickInterval, Duration.nanos_ofSeconds]
  rfl

namespace Schedule

/-- The alarms of a schedule. -/
def alarms (s : Schedule) : List Alarm := s.map Prod.snd

theorem alarms_add (s : Schedule) (now : Nat) (wakes : List Wake) :
    (s.add now wakes).alarms = s.alarms ++ wakes.map (·.alarm) := by
  simp [alarms, add, Function.comp_def]

theorem mem_add {s : Schedule} {now : Nat} {wakes : List Wake} {e : Nat × Alarm} :
    e ∈ s.add now wakes ↔ e ∈ s ∨ ∃ w ∈ wakes, e = (now + w.after.nanos, w.alarm) := by
  simp [add, eq_comm]

/-- How often the alarm of an entry can fall due up to a moment, when it is asked for again
a second later each time. -/
def visits (moment : Nat) (e : Nat × Alarm) : Nat :=
  if e.1 ≤ moment then (moment - e.1) / nanosPerSecond + 1 else 0

theorem foldl_bound (s : Schedule) (moment n : Nat) :
    (s.filter (·.1 ≤ moment)).foldl (fun n e => n + (moment - e.1) / nanosPerSecond + 1) n
      = n + s.bound moment := by
  induction s generalizing n with
  | nil => rfl
  | cons e s ih =>
    by_cases h : e.1 ≤ moment
    · rw [bound, List.filter_cons_of_pos (by simpa using h), List.foldl_cons, List.foldl_cons, ih,
        ih, Nat.zero_add, ← Nat.add_assoc, ← Nat.add_assoc]
    · rw [bound, List.filter_cons_of_neg (by simpa using h), ih, ih, Nat.zero_add]

theorem bound_cons (e : Nat × Alarm) (s : Schedule) (moment : Nat) :
    bound (e :: s) moment = visits moment e + s.bound moment := by
  by_cases h : e.1 ≤ moment
  · rw [bound, List.filter_cons_of_pos (by simpa using h), List.foldl_cons, foldl_bound, visits,
      if_pos h, Nat.zero_add]
  · rw [bound, List.filter_cons_of_neg (by simpa using h), foldl_bound, visits, if_neg h]

/-- The bound does not depend on the order of a schedule. -/
theorem bound_perm {s t : Schedule} (h : s.Perm t) (moment : Nat) :
    s.bound moment = t.bound moment := by
  induction h with
  | nil => rfl
  | cons e _ ih => rw [bound_cons, bound_cons, ih]
  | swap e f s => rw [bound_cons, bound_cons, bound_cons, bound_cons, Nat.add_left_comm]
  | trans _ _ ih₁ ih₂ => exact ih₁.trans ih₂

/-- Nothing is due up to a moment up to which nothing can fall due. -/
theorem lt_of_bound_eq_zero {s : Schedule} {moment : Nat} (h : s.bound moment = 0)
    {e : Nat × Alarm} (he : e ∈ s) : moment < e.1 := by
  rw [bound_perm (List.perm_cons_erase he), bound_cons, Nat.add_eq_zero_iff] at h
  have hvisits := h.1
  unfold visits at hvisits
  split at hvisits
  · exact absurd hvisits (Nat.succ_ne_zero _)
  · next hlate => exact Nat.lt_of_not_le hlate

/-- Handing back an alarm that asks for the next second at most leaves less to hand back. -/
theorem bound_lt_of_handed {s rest : Schedule} {e : Nat × Alarm} {moment : Nat} {wakes : List Wake}
    (hp : s.Perm (e :: rest)) (hdue : e.1 ≤ moment)
    (hw : wakes = [] ∨ ∃ n, wakes = [Countdown.tickWake n]) :
    bound (rest.add e.1 wakes) moment < s.bound moment := by
  have hs : s.bound moment = (moment - e.1) / nanosPerSecond + 1 + rest.bound moment := by
    rw [bound_perm hp, bound_cons, visits, if_pos hdue]
  rw [hs]
  rcases hw with rfl | ⟨n, rfl⟩
  · rw [add_nil, Nat.add_comm]
    exact Nat.lt_add_of_pos_right (Nat.succ_pos _)
  · have hadd : bound (rest.add e.1 [Countdown.tickWake n]) moment =
        visits moment (e.1 + Countdown.tickInterval.nanos, ⟨.countdown, n⟩)
          + rest.bound moment := by
      rw [add, List.map_singleton, bound_perm (List.perm_append_singleton _ _), bound_cons,
        Countdown.tickWake, Timeline.wake]
    rw [hadd, Nat.add_lt_add_iff_right, Nat.lt_succ_iff, visits,
      Countdown.nanos_tickInterval]
    split
    · next hle =>
      refine Nat.le_of_eq ?_
      rw [← Nat.sub_sub, ← Nat.div_eq_sub_div (by decide) (Nat.le_sub_of_add_le' hle)]
    · exact Nat.zero_le _

/-- The next tick is a second away. -/
theorem tick_mem_add (s : Schedule) (now n : Nat) :
    (now + nanosPerSecond, ⟨.countdown, n⟩) ∈ s.add now [Countdown.tickWake n] := by
  refine mem_add.mpr (.inr ⟨_, List.mem_singleton_self _, ?_⟩)
  rw [Countdown.tickWake, Timeline.wake, Countdown.nanos_tickInterval]

end Schedule

namespace Session

/-! ### The moves of time -/

/-- One move of time. -/
inductive Lapse : Session → Session → Prop
  /-- An alarm that is due is handed back. -/
  | deliver {s : Session} {e : Nat × Alarm} {rest : Schedule} (hp : s.schedule.Perm (e :: rest))
      (hdue : e.1 ≤ s.now) : Lapse s ({ s with schedule := rest }.handle [.alarm e.2]).1
  /-- The clock goes on, past no alarm. -/
  | wait {s : Session} {moment : Nat} (hle : s.now ≤ moment)
      (hnone : ∀ e ∈ s.schedule, moment ≤ e.1) : Lapse s { s with now := moment }

/-- Time passes, and nothing else happens. -/
def Passes : Session → Session → Prop := Relation.ReflTransGen Lapse

/-- Everything that is due has been handed back. -/
def Settled (s : Session) : Prop := ∀ e ∈ s.schedule, s.now < e.1

/-- A session that inputs and time lead to. -/
inductive Reachable (settings : Settings) : Session → Prop
  /-- It is new. -/
  | fresh (budget : Budget) : Reachable settings (Session.fresh settings budget)
  /-- Inputs other than alarms reach the host. -/
  | input {s : Session} {inputs : List Input} (h : Reachable settings s)
      (hi : ∀ a, .alarm a ∉ inputs) : Reachable settings (s.handle inputs).1
  /-- The reader moves on. -/
  | read {s : Session} (reader : Reader) (h : Reachable settings s) :
      Reachable settings { s with reader := reader }
  /-- Time passes. -/
  | lapse {s s' : Session} (h : Reachable settings s) (hl : Lapse s s') : Reachable settings s'

/-- No alarm is late, and the schedule is what the client waits for. -/
structure Timely (settings : Settings) (s : Session) : Prop where
  /-- No alarm is late. -/
  onTime : ∀ e ∈ s.schedule, s.now ≤ e.1
  /-- Some run leads to the client. -/
  client : Client.Reachable settings s.host.client
  /-- It waits for the alarms of the schedule. -/
  attends : s.host.Attends (s.schedule.alarms)

/-! ### Inputs -/

/-- A session whose host has stopped takes nothing. -/
theorem handle_of_stopped {s : Session} (hs : s.host.stopped = true) (inputs : List Input) :
    (s.handle inputs).1 = s := by
  simp [handle, Host.run_eq_turns, Host.turns_of_stopped hs, Effects.none]

theorem handle_singleton (s : Session) (i : Input) :
    (s.handle [i]).1 =
      { s with
        host := (s.host.turn ⟨s.writer.working, i⟩).1
        writer := (s.writer.lines (s.host.turn ⟨s.writer.working, i⟩).2.frames).1
        schedule := s.schedule.add s.now (s.host.turn ⟨s.writer.working, i⟩).2.wakes } := by
  simp [handle, Host.run_eq_turns, Effects.append, Effects.none]

/-- What an alarm does to a session whose host goes on. -/
theorem handle_alarm {settings : Settings} {s : Session}
    (hr : Client.Reachable settings s.host.client) (hs : s.host.stopped = false)
    (hcurrent : s.host.Current) (a : Alarm) :
    (s.handle [.alarm a]).1 =
      { s with
        host := s.host.publish (s.host.client.alarm a).1
        schedule := s.schedule.add s.now (s.host.client.alarm a).2.2 } := by
  rw [handle_singleton, Host.turn_alarm hr hs hcurrent]
  rfl

/-- Inputs other than alarms keep a client on a run, and what it asks for is waited for. -/
theorem attends_turns {settings : Settings} {h : Host} {pending : List Alarm}
    (hr : Client.Reachable settings h.client) (ha : h.Attends pending) {ts : List Turn}
    (ht : ∀ t ∈ ts, ∀ a, t.input ≠ .alarm a) :
    Client.Reachable settings (h.turns ts).1.client ∧
      (h.turns ts).1.Attends (pending ++ (h.turns ts).2.wakes.map (·.alarm)) := by
  induction ts generalizing h pending with
  | nil =>
    refine ⟨hr, ?_⟩
    rwa [Host.turns_nil, Effects.none, List.map_nil, List.append_nil]
  | cons t ts ih =>
    obtain ⟨hnext, hrest⟩ := List.forall_mem_cons.mp ht
    obtain ⟨hclient, hattends⟩ := ih (Host.turn_reachable hr t) (ha.turn hr hnext) hrest
    refine ⟨hclient, ?_⟩
    rw [Host.turns_cons, Effects.append, List.map_append, ← List.append_assoc]
    exact hattends

namespace Timely

variable {settings : Settings} {s s' : Session}

theorem fresh (settings : Settings) (budget : Budget) :
    Timely settings (Session.fresh settings budget) where
  onTime := nofun
  client := .fresh settings
  attends := fun _ => ⟨.fresh settings, Host.current_fresh settings⟩

/-- What is asked for now is not late. -/
theorem onTime_add {schedule : Schedule} {now : Nat} (h : ∀ e ∈ schedule, now ≤ e.1)
    (wakes : List Wake) : ∀ e ∈ schedule.add now wakes, now ≤ e.1 := by
  intro e he
  rcases Schedule.mem_add.mp he with he | ⟨w, -, rfl⟩
  · exact h e he
  · exact Nat.le_add_right _ _

theorem input (h : Timely settings s) {inputs : List Input} (hi : ∀ a, .alarm a ∉ inputs) :
    Timely settings (s.handle inputs).1 := by
  have hturns : ∀ t ∈ inputs.map (Turn.mk s.writer.working), ∀ a, t.input ≠ .alarm a := by
    intro t ht a ha
    obtain ⟨i, hmem, rfl⟩ := List.mem_map.mp ht
    exact hi a (ha ▸ hmem)
  obtain ⟨hclient, hattends⟩ := attends_turns h.client h.attends hturns
  rw [← Host.run_eq_turns] at hclient hattends
  rw [← Schedule.alarms_add _ s.now] at hattends
  exact ⟨onTime_add h.onTime _, hclient, hattends⟩

/-- A frame is no alarm. -/
theorem frame (h : Timely settings s) (text : String) :
    Timely settings (s.handle [.frame text]).1 :=
  h.input fun _ ha => by cases List.mem_singleton.mp ha

theorem lapse (h : Timely settings s) (hl : Lapse s s') : Timely settings s' := by
  cases hl with
  | wait hle hnone => exact ⟨hnone, h.client, h.attends⟩
  | @deliver e rest hp _ =>
    have honTime : ∀ f ∈ rest, s.now ≤ f.1 := fun f hf =>
      h.onTime f (hp.mem_iff.mpr (List.mem_cons_of_mem e hf))
    rw [handle_singleton]
    have hattends := h.attends.alarm h.client (hp.map Prod.snd) s.writer.working
    rw [← Schedule.alarms, ← Schedule.alarms_add _ s.now] at hattends
    exact ⟨onTime_add honTime _, Host.turn_reachable h.client _, hattends⟩

theorem passes (h : Timely settings s) (hp : s.Passes s') : Timely settings s' := by
  induction hp with
  | refl => exact h
  | tail _ hl ih => exact ih.lapse hl

end Timely

/-- **No alarm is late, and the schedule is what the client waits for**, whatever happened
before. -/
theorem timely {settings : Settings} {s : Session} (h : s.Reachable settings) :
    Timely settings s := by
  induction h with
  | fresh budget => exact .fresh settings budget
  | input _ hi ih => exact ih.input hi
  | read reader _ ih => exact ⟨ih.onTime, ih.client, ih.attends⟩
  | lapse _ hl ih => exact ih.lapse hl

/-! ### Advancing the clock -/

/-- An alarm that is handed back in its own moment asks for the next tick at most. -/
theorem schedule_handle_alarm {settings : Settings} {s : Session}
    (hr : Client.Reachable settings s.host.client)
    (hcurrent : s.host.stopped = false → s.host.Current) (a : Alarm) :
    ∃ wakes, (s.handle [.alarm a]).1.schedule = s.schedule.add s.now wakes ∧
      (wakes = [] ∨ ∃ n, wakes = [Countdown.tickWake n]) := by
  cases hs : s.host.stopped with
  | true => exact ⟨[], by rw [handle_of_stopped hs, Schedule.add_nil], .inl rfl⟩
  | false => exact ⟨_, by rw [handle_alarm hr hs (hcurrent hs)], Client.alarm_asks _ _⟩

/-- **Handing back what falls due up to a moment lets time pass**, and with enough steps
nothing is left that is due. -/
theorem deliver_spec {settings : Settings} {s : Session} (h : Timely settings s) {moment : Nat}
    (hnow : s.now ≤ moment) (steps : Nat) :
    s.Passes (s.deliver moment steps).1 ∧ (s.deliver moment steps).1.now ≤ moment ∧
      (s.schedule.bound moment ≤ steps →
        ∀ e ∈ (s.deliver moment steps).1.schedule, moment < e.1) := by
  induction steps generalizing s with
  | zero =>
    exact ⟨.refl, hnow, fun hb e he => Schedule.lt_of_bound_eq_zero (Nat.le_zero.mp hb) he⟩
  | succ steps ih =>
    rw [deliver]
    cases hfirst : s.schedule.first? with
    | none =>
      rw [Schedule.first?_eq_none_iff] at hfirst
      refine ⟨.refl, hnow, fun _ e he => ?_⟩
      simp only [hfirst] at he
      cases he
    | some r =>
      obtain ⟨e, rest⟩ := r
      have hperm := Schedule.perm_of_first? hfirst
      by_cases hdue : e.1 ≤ moment
      · -- the clock goes on to the alarm, and the alarm is handed back
        have hwait : Lapse s { s with now := e.1 } :=
          .wait (h.onTime e (hperm.mem_iff.mpr (List.mem_cons_self ..)))
            fun f hf => Schedule.le_of_first? hfirst hf
        have hdeliver : Lapse { s with now := e.1 }
            ({ s with now := e.1, schedule := rest }.handle [.alarm e.2]).1 :=
          .deliver hperm (Nat.le_refl _)
        have hmax : max s.now e.1 = e.1 :=
          Nat.max_eq_right (h.onTime e (hperm.mem_iff.mpr (List.mem_cons_self ..)))
        simp only [hdue, if_true, hmax]
        obtain ⟨wakes, hschedule, hwakes⟩ :=
          schedule_handle_alarm (s := { s with now := e.1, schedule := rest }) h.client
            (fun hs => (h.attends hs).2) e.2
        obtain ⟨hpasses, hle, hleft⟩ := ih ((h.lapse hwait).lapse hdeliver) hdue
        refine ⟨.head hwait (.head hdeliver hpasses), hle, fun hb => hleft ?_⟩
        have hless := Schedule.bound_lt_of_handed hperm hdue hwakes
        rw [hschedule]
        exact Nat.le_of_lt_succ (Nat.lt_of_lt_of_le hless hb)
      · simp only [hdue, if_false]
        refine ⟨.refl, hnow, fun _ f hf => ?_⟩
        exact Nat.lt_of_lt_of_le (Nat.lt_of_not_le hdue) (Schedule.le_of_first? hfirst hf)

/-- **Advancing the clock lets time pass, and settles the session.** -/
theorem passes_advance {settings : Settings} {s : Session} (h : Timely settings s) (d : Duration) :
    s.Passes (s.advance d).1 ∧ (s.advance d).1.Settled ∧
      (s.advance d).1.now = s.now + d.nanos := by
  obtain ⟨hpasses, hle, hleft⟩ :=
    deliver_spec h (Nat.le_add_right s.now d.nanos) (s.schedule.bound (s.now + d.nanos))
  have hleft := hleft (Nat.le_refl _)
  exact ⟨hpasses.tail (.wait hle fun e he => Nat.le_of_lt (hleft e he)), hleft, rfl⟩

/-- Whatever comes, all that is due by then is handed back. -/
theorem passes_settle {settings : Settings} {s : Session} (h : Timely settings s)
    {inputs : List Input} (hi : ∀ a, .alarm a ∉ inputs) :
    (s.handle inputs).1.Passes (s.settle inputs).1 ∧ (s.settle inputs).1.Settled := by
  obtain ⟨hpasses, hle, hleft⟩ :=
    deliver_spec (h.input hi) (Nat.le_refl s.now) ((s.handle inputs).1.schedule.bound s.now)
  exact ⟨hpasses, fun e he => Nat.lt_of_le_of_lt hle (hleft (Nat.le_refl _) e he)⟩

/-! ### The bytes of a session -/

/-- No alarm comes with the input. -/
theorem alarm_not_mem_inputsOfLines (lines : List (List UInt8)) (a : Alarm) :
    .alarm a ∉ (inputsOfLines lines).1 := by
  induction lines with
  | nil => exact List.not_mem_nil
  | cons line lines ih =>
    rw [inputsOfLines]
    split
    · simp
    · dsimp only
      split
      · simpa using ih
      · simpa using ih
      · exact ih

theorem alarm_not_mem_feed (r : Reader) (bytes : List UInt8) (a : Alarm) :
    .alarm a ∉ (r.feed bytes).2 := by
  unfold Reader.feed
  split
  · exact alarm_not_mem_inputsOfLines _ a
  · exact List.not_mem_nil

theorem alarm_not_mem_finish (r : Reader) (a : Alarm) : .alarm a ∉ r.finish.2 := by
  unfold Reader.finish
  split
  · generalize (if r.held = [] then [] else [r.held]) = lines
    have hlines := alarm_not_mem_inputsOfLines lines a
    dsimp only
    split
    · simpa using hlines
    · exact hlines
  · exact List.not_mem_nil

namespace Reachable

variable {settings : Settings} {s s' : Session}

theorem passes (h : s.Reachable settings) (hp : s.Passes s') : s'.Reachable settings := by
  induction hp with
  | refl => exact h
  | tail _ hl ih => exact ih.lapse hl

theorem settle (h : s.Reachable settings) {inputs : List Input} (hi : ∀ a, .alarm a ∉ inputs) :
    (s.settle inputs).1.Reachable settings :=
  (h.input hi).passes (passes_settle (timely h) hi).1

/-- Bytes that reach a session lead on from where it is; so do their end, a command, and
time. -/
theorem feed (h : s.Reachable settings) (bytes : List UInt8) :
    (s.feed bytes).1.Reachable settings :=
  (h.read (s.reader.feed bytes).1).settle (alarm_not_mem_feed s.reader bytes)

theorem close (h : s.Reachable settings) : s.close.1.Reachable settings :=
  (h.read s.reader.finish.1).settle (alarm_not_mem_finish s.reader)

theorem command (h : s.Reachable settings) (c : Command) :
    (s.command c).1.Reachable settings :=
  h.settle fun _ ha => by cases List.mem_singleton.mp ha

theorem advance (h : s.Reachable settings) (d : Duration) :
    (s.advance d).1.Reachable settings :=
  h.passes (passes_advance (timely h) d).1

end Reachable

end Session

end QuizClient
