import QuizClient.Proofs.Timelines

/-!
# What happens to the countdown

From one event to the next the countdown stays, is stopped, counts one second, or starts
in a new generation.  It starts for two reasons only: a snapshot asks for it, by its
phase or because a later attempt opens the buzz window, or the alarm of the reading time
opens that window.  Everything else that is proved of countdowns is read off this.

## Main definitions

* `Client.Asks` — the latest snapshot asks for a countdown of a phase.
* `CountdownChange` — what an operation does to the countdown.
* `Client.Starts` — why an event starts a countdown.
* `CountdownStep` — what one event does to the countdown.

## Main results

* `update_countdown`, `update_paused` — the countdown after a snapshot.
* `step_countdown` — **what one event does to the countdown.**
-/

namespace QuizClient

namespace Client

/-! ### What a snapshot asks for -/

/-- The latest snapshot asks for a countdown of its phase: by its timing, or because a
later attempt at the clue leaves nothing to read before the buzzing. -/
def Asks (c : Client) (p : Phase) (d : Duration) : Prop :=
  p = c.latest.phase ∧
    (c.timing = .ensure d ∨ c.timing = .restart d ∨
      p = .buzz ∧ c.latest.game.firstAttempt = false ∧ d = c.buzzTime)

/-- The timing is settled by the snapshots, the settings and the halt. -/
theorem timing_congr {c c' : Client} (hl : c'.latest = c.latest) (hs : c'.settings = c.settings)
    (hh : c'.halted = c.halted) : c'.timing = c.timing := by
  have hvote : c'.permissions.vote = c.permissions.vote := by
    simp only [permissions, Latest.permissions, hl, hh]
  unfold timing
  rw [hvote, hl, hs]

theorem Asks.congr {c c' : Client} {p : Phase} {d : Duration} (h : c.Asks p d)
    (hl : c'.latest = c.latest) (hs : c'.settings = c.settings) (hh : c'.halted = c.halted) :
    c'.Asks p d := by
  unfold Asks buzzTime at h ⊢
  rw [timing_congr hl hs hh, hl, hs]
  exact h

end Client

/-! ### Operations -/

/-- From one client to the next the countdown stays, is stopped, or starts for a phase
and of a length that there is a reason for. -/
inductive CountdownChange (c : Client) (reason : Phase → Duration → Prop) (c' : Client) : Prop
  /-- It stays as it is. -/
  | kept (hdisplay : c'.countdown.display = c.countdown.display)
      (hgeneration : c'.countdown.generation = c.countdown.generation)
      (howner : c'.owner = c.owner)
  /-- It is shown no more. -/
  | stopped (hdisplay : c'.countdown.display = .idle)
      (hgeneration : c'.countdown.generation = c.countdown.generation)
      (howner : c'.owner = none)
  /-- A new one starts. -/
  | started (p : Phase) (d : Duration) (hreason : reason p d) (hd : d.roundUp ≠ 0)
      (hdisplay : c'.countdown.display = .running d.roundUp (c.countdown.generation + 1))
      (hgeneration : c'.countdown.generation = c.countdown.generation + 1)
      (howner : c'.owner = some p)

namespace CountdownChange

variable {c d e : Client} {reason reason' : Phase → Duration → Prop}

theorem mono (h : CountdownChange c reason d) (hr : ∀ p t, reason p t → reason' p t) :
    CountdownChange c reason' d := by
  cases h with
  | kept hdisplay hgeneration howner => exact .kept hdisplay hgeneration howner
  | stopped hdisplay hgeneration howner => exact .stopped hdisplay hgeneration howner
  | started p t hreason ht hdisplay hgeneration howner =>
    exact .started p t (hr p t hreason) ht hdisplay hgeneration howner

/-- The change is about the countdown and its owner alone. -/
theorem congr (h : CountdownChange c reason d) (hk : e.countdown = d.countdown)
    (ho : e.owner = d.owner) : CountdownChange c reason e := by
  cases h with
  | kept hdisplay hgeneration howner =>
    exact .kept (hk ▸ hdisplay) (hk ▸ hgeneration) (ho.trans howner)
  | stopped hdisplay hgeneration howner =>
    exact .stopped (hk ▸ hdisplay) (hk ▸ hgeneration) (ho.trans howner)
  | started p t hreason ht hdisplay hgeneration howner =>
    exact .started p t hreason ht (hk ▸ hdisplay) (hk ▸ hgeneration) (ho.trans howner)

/-- A change after one that starts nothing. -/
theorem after (h₁ : CountdownChange c (fun _ _ => False) d) (h₂ : CountdownChange d reason e) :
    CountdownChange c reason e := by
  cases h₁ with
  | started p t hreason => exact hreason.elim
  | kept hd hg ho =>
    cases h₂ with
    | kept hd' hg' ho' => exact .kept (hd'.trans hd) (hg'.trans hg) (ho'.trans ho)
    | stopped hd' hg' ho' => exact .stopped hd' (hg'.trans hg) ho'
    | started p t hreason ht hd' hg' ho' =>
      rw [hg] at hd' hg'
      exact .started p t hreason ht hd' hg' ho'
  | stopped hd hg ho =>
    cases h₂ with
    | kept hd' hg' ho' => exact .stopped (hd'.trans hd) (hg'.trans hg) (ho'.trans ho)
    | stopped hd' hg' ho' => exact .stopped hd' (hg'.trans hg) ho'
    | started p t hreason ht hd' hg' ho' =>
      rw [hg] at hd' hg'
      exact .started p t hreason ht hd' hg' ho'

end CountdownChange

namespace Client

theorem startCountdown_change (c : Client) (p : Phase) (d : Duration)
    {reason : Phase → Duration → Prop} (hr : reason p d) :
    CountdownChange c reason (c.startCountdown p d).1 := by
  by_cases h : c.countdown.paused = true ∨ d.roundUp = 0
  · rw [startCountdown_of_refused h]
    exact .kept rfl rfl rfl
  · obtain ⟨hp, hd⟩ : c.countdown.paused = false ∧ d.roundUp ≠ 0 := by simpa using h
    rw [startCountdown_of_accepted hp hd]
    exact .started p d hr hd rfl rfl rfl

theorem keepTime_change (c : Client) : CountdownChange c c.Asks c.keepTime.1 := by
  unfold keepTime
  cases ht : c.timing with
  | stop => exact .stopped rfl rfl rfl
  | keep => exact .kept rfl rfl rfl
  | ensure d =>
    by_cases ho : c.owner = some c.latest.phase
    · simp only [ho, if_true]
      exact .kept rfl rfl rfl
    · simp only [ho, if_false]
      exact startCountdown_change c _ d ⟨rfl, .inl ht⟩
  | restart d => exact startCountdown_change c _ d ⟨rfl, .inr (.inl ht)⟩

theorem enterWindow_change {c : Client} (hb : c.latest.phase = .buzz) :
    CountdownChange c c.Asks c.enterWindow.1 := by
  cases hnew : c.entersAnew with
  | false =>
    rw [enterWindow_of_keeps hnew]
    exact .kept rfl rfl rfl
  | true =>
    have hentered : CountdownChange c (fun _ _ => False) c.entered := .stopped rfl rfl rfl
    cases hfirst : c.latest.game.firstAttempt with
    | true =>
      rw [enterWindow_of_first hnew hfirst]
      exact .stopped rfl rfl rfl
    | false =>
      rw [enterWindow_of_later hnew hfirst]
      exact hentered.after
        (startCountdown_change _ _ _ ⟨hb.symm, .inr (.inr ⟨rfl, hfirst, rfl⟩)⟩)

theorem enterPhase_change (c : Client) (o : Outcome) :
    CountdownChange c c.Asks (c.enterPhase o).1 := by
  by_cases hb : c.latest.phase = .buzz
  · rw [enterPhase_of_buzz hb]
    exact enterWindow_change hb
  by_cases hd : c.latest.phase = .dispute
  · -- the vote that is asked for does not touch the countdown
    rw [enterPhase_of_dispute hd]
    exact (keepTime_change c).congr rfl rfl
  by_cases he : c.latest.phase = .error
  · rw [enterPhase_of_error he]
    exact .stopped rfl rfl rfl
  · rw [enterPhase_of_other hb hd he]
    exact keepTime_change c

theorem settle_change (c : Client) : CountdownChange c (fun _ _ => False) c.settle := by
  by_cases ho : c.owner.any (· != c.latest.phase) = true
  · exact .stopped (by simp [ho, Countdown.cancel]) (by simp [ho]) (by simp [ho])
  · exact .kept (by simp [ho]) (by simp [ho]) (by simp [ho])

/-- **The countdown after a snapshot.**  A paused one stops it, and any other may start
what it asks for. -/
theorem update_countdown (c : Client) (g : Game) (player : Player) (advisory : Option String) :
    CountdownChange c (fun p d => g.paused = false ∧ (c.replace g player).1.Asks p d)
      (c.update g player advisory).1 := by
  cases hp : g.paused with
  | true =>
    rw [update_of_paused hp]
    refine .stopped rfl ?_ rfl
    show (c.applied g player advisory).1.countdown.generation = _
    simp [hp]
  | false =>
    have happly : CountdownChange c (fun _ _ => False) (c.applied g player advisory).1 :=
      .kept (by simp [hp]) (by simp [hp]) (by simp)
    rw [update_of_running hp]
    refine happly.after ((settle_change _).after ((enterPhase_change _ _).mono fun p d ha => ?_))
    exact ⟨rfl, ha.congr (by simp [replace]) (by simp [replace]) (by simp [replace])⟩

/-! ### The pause flag -/

theorem startCountdown_paused (c : Client) (p : Phase) (d : Duration) :
    (c.startCountdown p d).1.countdown.paused = c.countdown.paused := by
  by_cases h : c.countdown.paused = true ∨ d.roundUp = 0
  · rw [startCountdown_of_refused h]
  · obtain ⟨hp, hd⟩ : c.countdown.paused = false ∧ d.roundUp ≠ 0 := by simpa using h
    rw [startCountdown_of_accepted hp hd]

theorem keepTime_paused (c : Client) : c.keepTime.1.countdown.paused = c.countdown.paused := by
  rcases keepTime_cases c with h | h | ⟨d, h⟩
  · rw [h]
    rfl
  · rw [h]
  · rw [h]
    exact startCountdown_paused c c.latest.phase d

theorem enterWindow_paused (c : Client) :
    c.enterWindow.1.countdown.paused = c.countdown.paused := by
  cases hnew : c.entersAnew with
  | false => rw [enterWindow_of_keeps hnew]
  | true =>
    cases hfirst : c.latest.game.firstAttempt with
    | true =>
      rw [enterWindow_of_first hnew hfirst]
      rfl
    | false =>
      rw [enterWindow_of_later hnew hfirst]
      exact startCountdown_paused c.entered .buzz c.buzzTime

theorem enterPhase_paused (c : Client) (o : Outcome) :
    (c.enterPhase o).1.countdown.paused = c.countdown.paused := by
  unfold enterPhase
  cases c.latest.phase with
  | buzz => exact enterWindow_paused c
  | error => rfl
  | _ => exact keepTime_paused c

/-- **The countdown takes over the pause flag of a snapshot**, whatever else it does. -/
theorem update_paused (c : Client) (g : Game) (player : Player) (advisory : Option String) :
    (c.update g player advisory).1.countdown.paused = g.paused := by
  have hset : (c.applied g player advisory).1.countdown.paused = g.paused := by
    rw [applied_countdown]
    cases g.paused <;> rfl
  cases hp : g.paused with
  | true =>
    rw [update_of_paused hp]
    exact hset.trans hp
  | false =>
    rw [update_of_running hp, enterPhase_paused, settle_countdown]
    split
    · exact hset.trans hp
    · exact hset.trans hp

/-! ### Events -/

/-- Why an event starts a countdown of a phase: a snapshot that is not paused asks for it,
or the time to read the clue is over. -/
inductive Starts (c : Client) : Event → Phase → Duration → Prop
  /-- A snapshot asks for it. -/
  | snapshot {text : String} {g : Game} {player : Player} {advisory : Option String} {p : Phase}
      {d : Duration} (hh : c.halted = false)
      (hi : Inbound.ofText text = .ok (.update g player advisory)) (hp : g.paused = false)
      (ha : (c.replace g player).1.Asks p d) : Starts c (.frame text) p d
  /-- The alarm of the reading time opens the buzz window. -/
  | reading {n : Nat} (hb : c.window.stage = .blocked n) :
      Starts c (.alarm ⟨.reading, n⟩) .buzz c.buzzTime

/-- What one event does to the countdown. -/
inductive CountdownStep (c : Client) (e : Event) (c' : Client) : Prop
  /-- It stays, is stopped or starts. -/
  | changed (h : CountdownChange c (c.Starts e) c')
  /-- Its tick comes, and one second is over. -/
  | ticked (r n : Nat) (he : e = .alarm ⟨.countdown, n⟩)
      (hr : c.countdown.display = .running r n)
      (hdisplay : c'.countdown.display = if r ≤ 1 then .expired else .running (r - 1) n)
      (hgeneration : c'.countdown.generation = c.countdown.generation)
      (howner : c'.owner = c.owner)

theorem receive_countdown (c : Client) (text : String) :
    CountdownChange c (c.Starts (.frame text)) (c.receive text).1 := by
  cases received c text with
  | ignored h =>
    rw [h]
    exact .kept rfl rfl rfl
  | shown a h =>
    rw [h]
    exact .kept rfl rfl rfl
  | rejected a h =>
    rw [h]
    exact .kept rfl rfl rfl
  | unauthorized a h =>
    rw [h]
    exact .stopped rfl rfl rfl
  | distrusted e h =>
    rw [h]
    exact .stopped rfl rfl rfl
  | updated g player advisory hh hi h =>
    rw [h]
    exact (update_countdown c g player advisory).mono fun p d hr => .snapshot hh hi hr.1 hr.2

theorem alarm_countdown (c : Client) (a : Alarm) : c.CountdownStep (.alarm a) (c.alarm a).1 := by
  by_cases hdue : (c.position a.timeline).standing = .due a.generation
  · obtain ⟨t, n⟩ := a
    cases t with
    | countdown =>
      obtain ⟨r, hr⟩ := (countdown_due_iff c n).mp hdue
      refine .ticked r n rfl hr ?_ ?_ rfl
      · by_cases hlast : r ≤ 1 <;> simp [alarm, Countdown.tick, hr, hlast]
      · by_cases hlast : r ≤ 1 <;> simp [alarm, Countdown.tick, hr, hlast]
    | reading =>
      have hb := (reading_due_iff c n).mp hdue
      have hopened : CountdownChange c (fun _ _ => False)
          { c with window := { c.window with stage := .open } } := .kept rfl rfl rfl
      rw [alarm_reading_of_due hb]
      exact .changed (hopened.after (startCountdown_change _ _ _ (.reading hb)))
    | scores => exact .changed (.kept rfl rfl rfl)
    | advisory =>
      rw [alarm_advisory_of_due ((advisory_due_iff c n).mp hdue)]
      exact .changed (.kept rfl rfl rfl)
  · rw [alarm_eq_of_not_due hdue]
    exact .changed (.kept rfl rfl rfl)

/-- **What one event does to the countdown.** -/
theorem step_countdown (c : Client) (e : Event) : c.CountdownStep e (c.step e).1 := by
  cases e with
  | frame text => exact .changed (receive_countdown c text)
  | alarm a => exact alarm_countdown c a
  | action a =>
    obtain ⟨b, hb, -⟩ := step_action_frame c a
    rw [hb]
    exact .changed (.kept rfl rfl rfl)
  | refused r => exact .changed (.kept rfl rfl rfl)
  | leave => exact .changed (.stopped rfl rfl rfl)
  | reset => exact .changed (.stopped rfl rfl rfl)

end Client

end QuizClient
