import Mathlib.Data.List.Induction
import Mathlib.Data.List.Perm.Basic
import QuizClient.Proofs.Countdown
import QuizClient.Settings.Document

/-!
# Alarms on their way back

A client is attended when whoever runs it keeps the alarms it asked for and
hands each of them back once, at any time and in any order.  What is pending is
then an exact image of what the client waits for: each of its timelines that
waits has one alarm on the way that will change something, and each that does
not has none.

The invariant is kept for one timeline at a time.  Its pending alarms are known
by how many there are of each generation, and `Ledger` ties these counts to
where the timeline stands.

## Main definitions

* `Stimulus` — what is fed to a client whose alarms come back.
* `Attended` — a client and its pending alarms.
* `Ledger` — what the position of a timeline says about its pending alarms.
* `Balanced` — every timeline of a client has its ledger.
* `Client.KeepsOrRuns` — what an event does to the generation of the countdown.

## Main results

* `balanced_run` — every attended client is balanced.
* `ran_of_left_behind` — a tick left behind belongs to a countdown that ran.
* `pending_exact` — **which alarms are pending.**
-/

namespace QuizClient

/-! ### Attended clients -/

/-- What is fed to a client whose alarms come back. -/
inductive Stimulus where
  /-- A frame from the server. -/
  | frame (text : String)
  /-- What the player wants to do. -/
  | action (action : Action)
  /-- A refusal to be shown. -/
  | refused (refusal : Refusal)
  /-- The player leaves. -/
  | leave
  /-- The session starts over. -/
  | reset
  /-- An alarm comes back, known by its place among some alarms. -/
  | wake (place : Nat)
  deriving DecidableEq, Repr

namespace Stimulus

/-- The event that an input is when some alarms can come back; none when there is no
alarm in the place. -/
def event? (alarms : List Alarm) : Stimulus → Option Event
  | .frame text => some (.frame text)
  | .action a => some (.action a)
  | .refused r => some (.refused r)
  | .leave => some .leave
  | .reset => some .reset
  | .wake i => alarms[i]?.map .alarm

/-- The alarms that have not come back with an input. -/
def rest (alarms : List Alarm) : Stimulus → List Alarm
  | .wake i => alarms.eraseIdx i
  | _ => alarms

theorem rest_sublist (i : Stimulus) (alarms : List Alarm) : (i.rest alarms).Sublist alarms := by
  cases i with
  | wake n => exact List.eraseIdx_sublist alarms n
  | _ => exact List.Sublist.refl alarms

/-- An input is an event other than an alarm, which takes no alarm off, or an alarm
that it takes off. -/
theorem event?_cases {alarms : List Alarm} {i : Stimulus} {e : Event}
    (h : i.event? alarms = some e) :
    ((∀ a, e ≠ .alarm a) ∧ i.rest alarms = alarms) ∨
      ∃ a, e = .alarm a ∧ alarms.Perm (a :: i.rest alarms) := by
  cases i with
  | wake n =>
    obtain ⟨a, ha, rfl⟩ := Option.map_eq_some_iff.mp h
    obtain ⟨hn, rfl⟩ := List.getElem?_eq_some_iff.mp ha
    exact .inr ⟨_, rfl, (List.getElem_cons_eraseIdx_perm hn).symm⟩
  | _ =>
    cases h
    exact .inl ⟨nofun, rfl⟩

end Stimulus

/-- A client and the alarms it asked for that have not come back. -/
structure Attended where
  /-- The client. -/
  client : Client
  /-- The alarms, in the order in which they were asked for. -/
  pending : List Alarm

namespace Attended

/-- A new client. -/
def fresh (settings : Settings) : Attended := ⟨.fresh settings, []⟩

/-- One input. -/
def feed (d : Attended) (i : Stimulus) : Attended :=
  match i.event? d.pending with
  | none => d
  | some e =>
    let (c, _, wakes) := d.client.step e
    ⟨c, i.rest d.pending ++ wakes.map (·.alarm)⟩

/-- Some inputs, one after the other. -/
def run (d : Attended) (inputs : List Stimulus) : Attended := inputs.foldl feed d

end Attended

/-! ### The ledger of a timeline -/

/-- What the position of a timeline says about its pending alarms, `count n` of which are of
generation `n`. -/
structure Ledger (count : Nat → Nat) (p : Position) : Prop where
  /-- What is expected is of the current generation. -/
  current : ∀ n, p.standing = .due n → n = p.generation
  /-- There is none of a generation to come. -/
  beyond : ∀ n, p.generation < n → count n = 0
  /-- There are no two of one generation. -/
  single : ∀ n, count n ≤ 1
  /-- The one that is expected is there. -/
  due : ∀ n, p.standing = .due n → count n = 1
  /-- When none is left there is none. -/
  spent : p.standing = .spent → count p.generation = 0

namespace Ledger

variable {count : Nat → Nat} {p q : Position}

theorem move {ns : List Nat} (h : Ledger count p) (hm : Move p ns q) :
    Ledger (fun n => count n + ns.count n) q := by
  have hnext : count (p.generation + 1) = 0 := h.beyond _ (Nat.lt_succ_self _)
  cases hm with
  | arm =>
    refine ⟨fun n hn => ?_, fun n hn => ?_, fun n => ?_, fun n hn => ?_, nofun⟩
    · cases hn
      rfl
    · have : count n = 0 := h.beyond n (Nat.lt_of_succ_lt hn)
      have : n ≠ p.generation + 1 := Nat.ne_of_gt hn
      simp [*, eq_comm]
    · by_cases hn : n = p.generation + 1
      · simp [hn, hnext]
      · simpa [List.count_singleton, eq_comm, hn] using h.single n
    · cases hn
      simp [hnext]
  | renew =>
    refine ⟨nofun, fun n hn => ?_, fun n => ?_, nofun, fun _ => ?_⟩
    · exact h.beyond n (Nat.lt_of_succ_lt hn)
    · exact h.single n
    · exact hnext
  | lapse => exact ⟨nofun, h.beyond, h.single, nofun, nofun⟩

theorem course {ns : List Nat} (h : Ledger count p) (hc : Course p ns q) :
    Ledger (fun n => count n + ns.count n) q := by
  induction hc generalizing count with
  | stay => simpa using h
  | move hm _ ih => simpa [Nat.add_assoc] using ih (h.move hm)

/-- An alarm that is not expected only leaves the ledger. -/
theorem stale {m : Nat} {rest : Nat → Nat} (h : Ledger count p) (hm : p.standing ≠ .due m)
    (hrest : ∀ n, count n = rest n + if n = m then 1 else 0) : Ledger rest p := by
  refine ⟨h.current, fun n hn => ?_, fun n => ?_, fun n hn => ?_, fun ho => ?_⟩
  · have := h.beyond n hn
    have := hrest n
    omega
  · have := h.single n
    have := hrest n
    omega
  · have hne : n ≠ m := fun he => hm (he ▸ hn)
    have := hrest n
    rw [if_neg hne, h.due n hn] at this
    omega
  · have := h.spent ho
    have := hrest p.generation
    omega

/-- An alarm that is expected leaves the ledger, and may be asked for again. -/
theorem arrive {m : Nat} {ms : List Nat} {rest : Nat → Nat} (h : Ledger count p)
    (ha : Arrival p m ms q) (hrest : ∀ n, count n = rest n + if n = m then 1 else 0) :
    Ledger (fun n => rest n + ms.count n) q := by
  have hle : ∀ n, rest n ≤ count n := fun n => by rw [hrest n]; exact Nat.le_add_right _ _
  cases ha with
  | last g m =>
    have hm : m = g := h.current m rfl
    have hone := h.due m rfl
    have hzero : rest m = 0 := by
      have := hrest m
      rw [if_pos rfl] at this
      omega
    refine ⟨nofun, fun n hn => ?_, fun n => ?_, nofun, fun _ => ?_⟩
    · exact Nat.le_zero.mp (h.beyond n hn ▸ hle n)
    · exact Nat.le_trans (hle n) (h.single n)
    · simpa [← hm] using hzero
  | again g m =>
    -- the alarm that left is asked for again, so the counts are as before
    have hsame : (fun n => rest n + [m].count n) = count := by
      funext n
      rw [hrest n]
      by_cases hn : n = m
      · simp [hn]
      · simp [hn, Ne.symm hn]
    rw [hsame]
    exact h

end Ledger

/-! ### Balanced clients -/

theorem count_append_wakes (pending : List Alarm) (wakes : List Wake) (t : Timeline) (n : Nat) :
    (pending ++ wakes.map (·.alarm)).count ⟨t, n⟩
      = pending.count ⟨t, n⟩ + (asked t wakes).count n := by
  rw [List.count_append]
  congr 1
  induction wakes with
  | nil => rfl
  | cons w ws ih =>
    obtain ⟨⟨s, m⟩, d⟩ := w
    have hcons : asked t (⟨⟨s, m⟩, d⟩ :: ws) = (if s = t then [m] else []) ++ asked t ws := by
      by_cases h : s = t <;> simp [asked, h]
    rw [hcons, List.map_cons, List.count_cons, List.count_append, ih, Nat.add_comm]
    by_cases h : s = t <;> simp [h, List.count_singleton]

theorem count_of_perm_cons {pending rest : List Alarm} {a : Alarm} (h : pending.Perm (a :: rest))
    (n : Nat) :
    pending.count ⟨a.timeline, n⟩
      = rest.count ⟨a.timeline, n⟩ + if n = a.generation then 1 else 0 := by
  rw [h.count_eq, List.count_cons]
  congr 1
  obtain ⟨t, m⟩ := a
  by_cases hn : n = m
  · simp [hn]
  · simp [hn, Ne.symm hn]

theorem count_of_perm_cons_other {pending rest : List Alarm} {a : Alarm}
    (h : pending.Perm (a :: rest)) {t : Timeline} (ht : t ≠ a.timeline) (n : Nat) :
    pending.count ⟨t, n⟩ = rest.count ⟨t, n⟩ := by
  rw [h.count_eq, List.count_cons_of_ne]
  rintro rfl
  exact ht rfl

/-- Every timeline of a client has its ledger. -/
def Balanced (c : Client) (pending : List Alarm) : Prop :=
  ∀ t, Ledger (fun n => pending.count ⟨t, n⟩) (c.position t)

namespace Balanced

variable {c c' : Client} {pending rest : List Alarm}

theorem fresh (settings : Settings) : Balanced (.fresh settings) [] := by
  intro t
  cases t <;> exact ⟨nofun, fun _ _ => rfl, fun _ => Nat.zero_le _, nofun, fun _ => rfl⟩

theorem leads {wakes : List Wake} (h : Balanced c pending) (hl : c.Leads wakes c') :
    Balanced c' (pending ++ wakes.map (·.alarm)) := by
  intro t
  simp only [count_append_wakes]
  exact (h t).course (hl t)

theorem alarm {a : Alarm} (h : Balanced c pending) (ha : pending.Perm (a :: rest)) :
    Balanced (c.alarm a).1 (rest ++ (c.alarm a).2.2.map (·.alarm)) := by
  intro t
  simp only [count_append_wakes]
  by_cases ht : t = a.timeline
  · subst ht
    by_cases hdue : (c.position a.timeline).standing = .due a.generation
    · exact (h _).arrive (Client.alarm_arrival hdue) (count_of_perm_cons ha)
    · rw [Client.alarm_eq_of_not_due hdue]
      exact (h _).stale hdue (count_of_perm_cons ha)
  · have hsame := h t
    simp only [count_of_perm_cons_other ha ht] at hsame
    exact hsame.course (Client.alarm_leads_other c a ht)

end Balanced

theorem balanced_feed {d : Attended} (h : Balanced d.client d.pending) (i : Stimulus) :
    Balanced (d.feed i).client (d.feed i).pending := by
  unfold Attended.feed
  cases he : i.event? d.pending with
  | none => exact h
  | some e =>
    rcases Stimulus.event?_cases he with ⟨hother, hrest⟩ | ⟨a, rfl, hperm⟩
    · show Balanced _ (i.rest d.pending ++ _)
      rw [hrest]
      exact h.leads (Client.step_leads d.client hother)
    · exact h.alarm hperm

/-- **Every attended client is balanced.** -/
theorem balanced_run (settings : Settings) (inputs : List Stimulus) :
    Balanced ((Attended.fresh settings).run inputs).client
      ((Attended.fresh settings).run inputs).pending := by
  have key : ∀ d : Attended, Balanced d.client d.pending →
      Balanced (d.run inputs).client (d.run inputs).pending := by
    induction inputs with
    | nil => exact fun d h => h
    | cons i is ih => exact fun d h => ih (d.feed i) (balanced_feed h i)
  exact key _ (.fresh settings)

/-! ### Which alarms are pending -/

/-- Whether a timeline of a client waits for its alarm. -/
def Client.waits (c : Client) : Timeline → Bool
  | .countdown => c.countdown.isRunning
  | .reading => c.window.isBlocked
  | .scores => !c.changes.entries.isEmpty
  | .advisory => c.advisory.any (·.kind.isPassing)

/-- A timeline waits when it expects an alarm. -/
theorem Client.waits_iff (c : Client) (t : Timeline) :
    c.waits t = true ↔ ∃ n, (c.position t).standing = .due n := by
  cases t with
  | countdown =>
    simp only [countdown_due_iff]
    cases h : c.countdown.display <;> simp [waits, Countdown.isRunning, h]
  | reading =>
    simp only [reading_due_iff]
    cases h : c.window.stage <;> simp [waits, BuzzWindow.isBlocked, BuzzWindow.status, h]
  | scores =>
    simp only [scores_due_iff]
    simp [waits]
  | advisory =>
    simp only [advisory_due_iff]
    simp [waits]

namespace Balanced

variable {c : Client} {pending : List Alarm}

/-- Of the alarms of a timeline that waits, one will change something. -/
theorem countP_changing (h : Balanced c pending) (t : Timeline) :
    pending.countP (fun a => a.timeline = t && (c.alarm a).2.1) = if c.waits t then 1 else 0 := by
  by_cases hw : c.waits t = true
  · obtain ⟨n, hn⟩ := (c.waits_iff t).mp hw
    rw [if_pos hw, ← (h t).due n hn, List.count]
    refine List.countP_congr fun a _ => ?_
    obtain ⟨s, m⟩ := a
    simp only [Bool.and_eq_true, decide_eq_true_eq, Client.alarm_changes_iff, beq_iff_eq,
      Alarm.mk.injEq]
    constructor
    · rintro ⟨rfl, hm⟩
      rw [hn] at hm
      cases hm
      exact ⟨rfl, rfl⟩
    · rintro ⟨rfl, rfl⟩
      exact ⟨rfl, hn⟩
  · rw [if_neg hw, List.countP_eq_zero]
    rintro ⟨s, m⟩ - hm
    simp only [Bool.and_eq_true, decide_eq_true_eq, Client.alarm_changes_iff] at hm
    obtain ⟨rfl, hm⟩ := hm
    exact hw ((c.waits_iff s).mpr ⟨m, hm⟩)

/-- The alarm of the current generation is pending when it is expected. -/
theorem count_current (h : Balanced c pending) {t : Timeline} (hw : c.waits t = true) :
    pending.count ⟨t, (c.position t).generation⟩ = 1 := by
  obtain ⟨n, hn⟩ := (c.waits_iff t).mp hw
  rw [← (h t).current n hn]
  exact (h t).due n hn

/-- Only the countdown may leave an alarm of its current generation behind. -/
theorem count_current_eq (h : Balanced c pending) {t : Timeline} (ht : t ≠ .countdown) :
    pending.count ⟨t, (c.position t).generation⟩ = if c.waits t then 1 else 0 := by
  by_cases hw : c.waits t = true
  · rw [if_pos hw, h.count_current hw]
  · have hspent : (c.position t).standing = .spent := by
      have hdue := mt (c.waits_iff t).mpr hw
      cases t with
      | countdown => exact absurd rfl ht
      | reading => cases hs : c.window.stage <;> simp_all
      | scores => by_cases he : c.changes.entries = [] <;> simp_all
      | advisory => by_cases hp : c.advisory.any (·.kind.isPassing) = true <;> simp_all
    rw [if_neg hw]
    exact (h t).spent hspent

end Balanced

/-! ### Ticks left behind -/

namespace Client

/-- The countdown keeps its generation, or runs in a new one. -/
def KeepsOrRuns (c c' : Client) : Prop :=
  c'.countdown.generation = c.countdown.generation ∨
    ∃ r, c'.countdown.display = .running r c'.countdown.generation

/-- Whatever happens, the countdown keeps its generation or runs in a new one. -/
theorem step_keepsOrRuns (c : Client) (e : Event) : c.KeepsOrRuns (c.step e).1 := by
  cases step_countdown c e with
  | ticked _ _ _ _ _ hgeneration => exact .inl hgeneration
  | changed h =>
    cases h with
    | kept _ hgeneration => exact .inl hgeneration
    | stopped _ hgeneration => exact .inl hgeneration
    | started _ d _ _ hdisplay hgeneration =>
      rw [← hgeneration] at hdisplay
      exact .inr ⟨d.roundUp, hdisplay⟩

/-- An event that leaves no countdown asks for no tick of the current generation. -/
theorem count_asked_of_idle (c : Client) (e : Event)
    (hidle : (c.step e).1.countdown.display = .idle)
    (hgen : (c.step e).1.countdown.generation = c.countdown.generation) (n : Nat) :
    (asked .countdown (c.step e).2.2).count n = 0 := by
  have hprogress := step_progress c e .countdown
  have hstanding : ((c.step e).1.position .countdown).standing = .lapsed := by simp [hidle]
  have hsame : ((c.step e).1.position .countdown).generation
      = (c.position .countdown).generation := hgen
  generalize asked .countdown (c.step e).2.2 = ns at hprogress
  generalize (c.step e).1.position .countdown = q at hprogress hstanding hsame
  generalize c.position .countdown = p at hprogress hsame
  cases hprogress with
  | course h =>
    -- a course asks for later generations only
    refine List.count_eq_zero.mpr fun hn => ?_
    have := h.bounds.2 n hn
    omega
  | arrival h =>
    cases h with
    | last => rfl
    | again => cases hstanding

end Client

/-- A tick that is left behind by an input was pending before it. -/
theorem left_behind_feed {d : Attended} {i : Stimulus}
    (hidle : (d.feed i).client.countdown.display = .idle)
    (hleft : (d.feed i).pending.count ⟨.countdown, (d.feed i).client.countdown.generation⟩ ≠ 0) :
    (d.feed i).client.countdown.generation = d.client.countdown.generation ∧
      d.pending.count ⟨.countdown, d.client.countdown.generation⟩ ≠ 0 := by
  unfold Attended.feed at hidle hleft ⊢
  cases he : i.event? d.pending with
  | none =>
    rw [he] at hleft
    exact ⟨rfl, hleft⟩
  | some e =>
    simp only [he] at hidle hleft ⊢
    have hgen : (d.client.step e).1.countdown.generation = d.client.countdown.generation := by
      rcases Client.step_keepsOrRuns d.client e with h | ⟨r, h⟩
      · exact h
      · rw [hidle] at h
        cases h
    refine ⟨hgen, ?_⟩
    rw [hgen, count_append_wakes, Client.count_asked_of_idle _ _ hidle hgen] at hleft
    have := (i.rest_sublist d.pending).count_le ⟨.countdown, d.client.countdown.generation⟩
    omega

/-- **A tick left behind belongs to a countdown that ran**, at an earlier point of the
run. -/
theorem ran_of_left_behind (settings : Settings) (inputs : List Stimulus) {d : Attended}
    (hrun : d = (Attended.fresh settings).run inputs)
    (hidle : d.client.countdown.display = .idle)
    (hleft : d.pending.count ⟨.countdown, d.client.countdown.generation⟩ ≠ 0) :
    ∃ earlier, earlier <+: inputs ∧
      ∃ r, ((Attended.fresh settings).run earlier).client.countdown.display =
        .running r d.client.countdown.generation := by
  induction inputs using List.reverseRecOn generalizing d with
  | nil =>
    subst hrun
    exact absurd rfl hleft
  | append_singleton is i ih =>
    -- look at the client before the last input: its tick was pending there too
    let b := (Attended.fresh settings).run is
    obtain rfl : d = b.feed i := by simpa [b, Attended.run] using hrun
    obtain ⟨hgen, hbefore⟩ := left_behind_feed hidle hleft
    have hprefix : is <+: is ++ [i] := List.prefix_append is [i]
    have hbalanced : Ledger _ _ := balanced_run settings is .countdown
    rw [hgen]
    cases hdisplay : b.client.countdown.display with
    | idle =>
      -- it was left behind earlier still
      obtain ⟨earlier, hearlier, hran⟩ := ih rfl hdisplay hbefore
      exact ⟨earlier, hearlier.trans hprefix, hran⟩
    | running r m =>
      have hm : m = b.client.countdown.generation :=
        hbalanced.current m ((Client.countdown_due_iff b.client m).mpr ⟨r, hdisplay⟩)
      exact ⟨is, hprefix, r, by rw [← hm]; exact hdisplay⟩
    | expired => exact absurd (hbalanced.spent (by simp [b, hdisplay])) hbefore

/-! ### The main result -/

/-- **Which alarms are pending.**  Of the current generation of a timeline one alarm is
on its way back while the timeline waits, and none while it does not, except that a
countdown that ran and was cancelled may leave its next tick behind, which will do
nothing.  On every timeline one pending alarm will change something while it waits,
and none while it does not. -/
theorem pending_exact (settings : Settings) (inputs : List Stimulus) :
    let d := (Attended.fresh settings).run inputs
    let c := d.client
    let ticks := d.pending.count ⟨.countdown, c.countdown.generation⟩
    (c.countdown.isRunning = true → ticks = 1) ∧
    (c.countdown.display = .expired → ticks = 0) ∧
    (c.countdown.display = .idle →
      ticks ≤ 1 ∧ c.alarm ⟨.countdown, c.countdown.generation⟩ = (c, false, []) ∧
      (ticks = 1 → ∃ earlier, earlier <+: inputs ∧
        ∃ r, ((Attended.fresh settings).run earlier).client.countdown.display =
          .running r c.countdown.generation)) ∧
    d.pending.count ⟨.reading, c.window.generation⟩ = (if c.window.isBlocked then 1 else 0) ∧
    d.pending.count ⟨.scores, c.changes.generation⟩
      = (if c.changes.entries.isEmpty then 0 else 1) ∧
    d.pending.count ⟨.advisory, c.advisoryGeneration⟩
      = (if c.advisory.any (·.kind.isPassing) then 1 else 0) ∧
    ∀ t, d.pending.countP (fun a => a.timeline = t && (c.alarm a).2.1)
      = if c.waits t then 1 else 0 := by
  intro d c ticks
  have h : Balanced c d.pending := balanced_run settings inputs
  refine ⟨fun hr => ?_, fun hd => ?_, fun hi => ⟨?_, ?_, fun hone => ?_⟩, ?_, ?_, ?_, fun t => ?_⟩
  · exact h.count_current (t := .countdown) hr
  · exact (h .countdown).spent (by simp [hd])
  · exact (h .countdown).single _
  · exact Client.alarm_eq_of_not_due (by simp [hi])
  · exact ran_of_left_behind settings inputs rfl hi (by show ticks ≠ 0; omega)
  · exact h.count_current_eq (t := .reading) (by decide)
  · have := h.count_current_eq (t := .scores) (by decide)
    cases he : c.changes.entries.isEmpty <;> simpa [Client.waits, he] using this
  · exact h.count_current_eq (t := .advisory) (by decide)
  · exact h.countP_changing t

/-- A frame that lets the player choose a clue, which starts a countdown, or cancels it
when the game is paused. -/
def pickFrame (paused : Bool) : String :=
  "\x7b\"code\":200,\"game\":\x7b\"state\":2,\"round\":0,\"players\":[],\"paused\":"
    ++ (if paused then "true" else "false") ++ "\x7d,\"curPlayer\":\x7b\"id\":\"a\"\x7d\x7d"

/-- A pause cancels the countdown and keeps its generation, so that the tick it asked
for is still pending when nothing runs. -/
theorem cancelled_tick_pending :
    let d := (Attended.fresh .default).run [.frame (pickFrame false), .frame (pickFrame true)]
    d.client.countdown.isRunning = false ∧
      d.pending.count ⟨.countdown, d.client.countdown.generation⟩ = 1 := by
  decide +kernel

end QuizClient
