import QuizClient.Proofs.Countdown
import QuizClient.Proofs.Window

/-!
# Whose countdown is shown

The countdown and the phase that started it are kept apart, and different operations
touch them, yet they always agree: a countdown is shown when, and only when, a phase owns
it.  That phase is the one of the latest snapshot, which is not paused and leaves
something to wait for, and the session goes on.  So nothing that ends a phase leaves its
countdown behind.

## Main definitions

* `timedPhases` — the phases that can own a countdown.
* `Client.Admits` — the latest snapshot admits a countdown of a phase.
* `Client.Tracked`, `Client.Owned` — the countdown agrees with its owner, and its owner
  with the latest snapshot.

## Main results

* `tracked_step`, `owned_step`, `owned_run` — every event keeps the agreement.
* `countdown_follows_snapshot` — **whose countdown is shown, in every run.**
-/

namespace QuizClient

theorem Countdown.remaining_ne_none_iff (k : Countdown) :
    k.remaining ≠ none ↔ k.display ≠ .idle := by
  unfold remaining
  cases k.display <;> simp

/-- The phases that can own a countdown. -/
def timedPhases : List Phase := [.pick, .buzz, .wager, .answer, .vote]

namespace Client

/-- The latest snapshot admits a countdown of a phase. -/
structure Admits (c : Client) (p : Phase) : Prop where
  /-- It is of that phase. -/
  phase : p = c.latest.phase
  /-- The phase is one that is timed. -/
  timed : p ∈ timedPhases
  /-- The game is not paused. -/
  unpaused : c.latest.game.paused = false
  /-- The session goes on. -/
  unhalted : c.halted = false
  /-- Buzzing is open. -/
  window : p = .buzz → c.window.stage = .open
  /-- The player has a vote. -/
  vote : p = .vote → c.latest.player.mayVote = true

/-- The countdown agrees with its owner. -/
structure Tracked (c : Client) : Prop where
  /-- A countdown is shown while it has an owner. -/
  shown_iff : c.countdown.display ≠ .idle ↔ c.owner ≠ none
  /-- One that runs shows a second at least, and runs in the latest generation. -/
  current : ∀ r n, c.countdown.display = .running r n → 1 ≤ r ∧ n = c.countdown.generation

/-- The countdown agrees with its owner, and its owner with the latest snapshot. -/
structure Owned (c : Client) : Prop extends Tracked c where
  /-- The latest snapshot admits a countdown of its owner. -/
  admitted : ∀ p, c.owner = some p → c.Admits p

/-! ### The countdown and its owner -/

theorem Tracked.change {c c' : Client} {reason : Phase → Duration → Prop} (h : c.Tracked)
    (hc : CountdownChange c reason c') : c'.Tracked := by
  cases hc with
  | kept hdisplay hgeneration howner =>
    refine ⟨?_, ?_⟩
    · rw [hdisplay, howner]
      exact h.shown_iff
    · rw [hdisplay, hgeneration]
      exact h.current
  | stopped hdisplay _ howner =>
    refine ⟨by simp [hdisplay, howner], fun r n hr => ?_⟩
    rw [hdisplay] at hr
    cases hr
  | started p d _ hd hdisplay hgeneration howner =>
    refine ⟨by simp [hdisplay, howner], fun r n hr => ?_⟩
    rw [hdisplay] at hr
    cases hr
    exact ⟨Nat.one_le_iff_ne_zero.mpr hd, hgeneration.symm⟩

theorem tracked_step {c : Client} (h : c.Tracked) (e : Event) : (c.step e).1.Tracked := by
  cases step_countdown c e with
  | changed hc => exact h.change hc
  | ticked r n _ hr hdisplay hgeneration howner =>
    obtain ⟨-, hn⟩ := h.current r n hr
    have hshown : c.owner ≠ none := h.shown_iff.mp (by simp [hr])
    -- a countdown that came to zero is still shown, so it keeps its owner
    by_cases hlast : r ≤ 1
    · rw [if_pos hlast] at hdisplay
      refine ⟨by simp [hdisplay, howner, hshown], fun s m hs => ?_⟩
      rw [hdisplay] at hs
      cases hs
    · rw [if_neg hlast] at hdisplay
      refine ⟨by simp [hdisplay, howner, hshown], fun s m hs => ?_⟩
      rw [hdisplay] at hs
      cases hs
      exact ⟨by omega, by rw [hgeneration, hn]⟩

/-! ### The owner and the latest snapshot -/

/-- A phase that is timed can own a countdown, and voting is timed for who has a vote. -/
theorem timed_of_timing {c : Client} (h : c.timing ≠ .stop) :
    c.latest.phase ∈ timedPhases ∧ (c.latest.phase = .vote → c.permissions.vote = true) := by
  unfold timing at h
  show c.latest.game.phase ∈ _ ∧ (c.latest.game.phase = _ → _)
  cases hp : c.latest.game.phase <;> simp_all [timedPhases]

theorem startCountdown_owner {c : Client} {p q : Phase} {d : Duration}
    (h : (c.startCountdown p d).1.owner = some q) : c.owner = some q ∨ q = p := by
  have hc : CountdownChange c (fun q _ => q = p) (c.startCountdown p d).1 :=
    startCountdown_change c p d rfl
  cases hc with
  | kept _ _ howner => exact .inl (howner.symm.trans h)
  | stopped _ _ howner =>
    rw [howner] at h
    cases h
  | started _ _ hq _ _ _ howner =>
    rw [howner] at h
    cases h
    exact .inr hq

/-- What a phase asks of the countdown leaves one only if it does not stop it. -/
theorem keepTime_owner {c : Client} (hc : ∀ p, c.owner = some p → p = c.latest.phase)
    {p : Phase} (h : c.keepTime.1.owner = some p) :
    p = c.latest.phase ∧ c.timing ≠ .stop := by
  unfold keepTime at h
  cases ht : c.timing with
  | stop =>
    rw [ht] at h
    cases h
  | keep =>
    rw [ht] at h
    exact ⟨hc p h, nofun⟩
  | ensure d =>
    simp only [ht] at h
    -- whether it starts or is refused, an owner that was there is of this phase already
    split at h
    · exact ⟨hc p h, nofun⟩
    · exact ⟨(startCountdown_owner h).elim (hc p) id, nofun⟩
  | restart d =>
    simp only [ht] at h
    exact ⟨(startCountdown_owner h).elim (hc p) id, nofun⟩

/-- In the phase for buzzing a countdown is left alone with its window, or starts when
the window is open. -/
theorem enterWindow_owner {c : Client} {p : Phase} (h : c.enterWindow.1.owner = some p) :
    c.owner = some p ∧ c.enterWindow.1.window = c.window ∨
      p = .buzz ∧ c.enterWindow.1.window.stage = .open := by
  cases hnew : c.entersAnew with
  | false =>
    rw [enterWindow_of_keeps hnew] at h ⊢
    exact .inl ⟨h, rfl⟩
  | true =>
    cases hfirst : c.latest.game.firstAttempt with
    | true =>
      rw [enterWindow_of_first hnew hfirst] at h
      cases h
    | false =>
      refine .inr ⟨?_, ?_⟩
      · rw [enterWindow_of_later hnew hfirst] at h
        exact (startCountdown_owner h).elim nofun id
      · rw [enterWindow_window, if_pos hnew, BuzzWindow.stage_enter, hfirst]
        rfl

theorem settle_owner_some {c : Client} {p : Phase} (h : c.settle.owner = some p) :
    p = c.latest.phase ∧ c.owner = some p := by
  rw [settle_owner] at h
  split at h
  · cases h
  · next hany =>
    rw [h] at hany
    exact ⟨by simpa using hany, h⟩

/-- What the phase of play leaves an owner of a countdown, that owner is the phase itself,
which is one that is timed. -/
theorem enterPhase_owner {c : Client} (hc : ∀ p, c.owner = some p → p = c.latest.phase)
    {o : Outcome} {p : Phase} (h : (c.enterPhase o).1.owner = some p) :
    p = c.latest.phase ∧ p ∈ timedPhases ∧ p ≠ .error ∧
      (p = .vote → c.permissions.vote = true) := by
  by_cases hb : c.latest.phase = .buzz
  · have hp : p = .buzz := by
      rw [enterPhase_of_buzz hb] at h
      rcases enterWindow_owner h with ⟨hkept, -⟩ | ⟨hp, -⟩
      · exact (hc p hkept).trans hb
      · exact hp
    subst hp
    exact ⟨hb.symm, by decide, by decide, nofun⟩
  -- in the other phases an owner is left by what the phase asks of the countdown
  have hkeep : c.keepTime.1.owner = some p := by
    by_cases hd : c.latest.phase = .dispute
    · rwa [enterPhase_of_dispute hd] at h
    by_cases he : c.latest.phase = .error
    · rw [enterPhase_of_error he] at h
      cases h
    · rwa [enterPhase_of_other hb hd he] at h
  obtain ⟨rfl, ht⟩ := keepTime_owner hc hkeep
  obtain ⟨htimed, hvote⟩ := timed_of_timing ht
  refine ⟨rfl, htimed, fun he => ?_, hvote⟩
  rw [he] at htimed
  exact absurd htimed (by decide)

/-- After a snapshot that leaves a countdown in the phase for buzzing, the window is
open: it was entered open, or it is the one that the countdown was admitted by. -/
theorem update_window_open {c : Client} (h : c.Owned) {g : Game} {player : Player}
    {advisory : Option String} (hp : g.paused = false) (hb : g.phase = .buzz) {p : Phase}
    (ho : (c.update g player advisory).1.owner = some p) :
    (c.update g player advisory).1.window.stage = .open := by
  have hs : (c.applied g player advisory).1.settle.latest.phase = .buzz := by simpa using hb
  rw [update_of_running hp, enterPhase_of_buzz hs] at ho ⊢
  rcases enterWindow_owner ho with ⟨hkept, hsame⟩ | ⟨-, hopen⟩
  · obtain ⟨hq, hc⟩ := settle_owner_some hkept
    have hbuzz : p = .buzz := hq.trans (by simpa using hb)
    rw [hsame, settle_window, if_pos (by simpa using hb), applied_window]
    exact (h.admitted p (by simpa using hc)).window hbuzz
  · exact hopen

theorem update_admitted {c : Client} (h : c.Owned) (hh : c.halted = false) {g : Game}
    {player : Player} {advisory : Option String} {p : Phase}
    (ho : (c.update g player advisory).1.owner = some p) :
    (c.update g player advisory).1.Admits p := by
  cases hpause : g.paused with
  | true =>
    rw [update_of_paused hpause] at ho
    cases ho
  | false =>
    have howner := ho
    rw [update_of_running hpause] at howner
    obtain ⟨hp, htimed, herror, hvote⟩ := enterPhase_owner
      (fun q hq => (settle_owner_some hq).1.trans (by simp)) howner
    have hphase : p = g.phase := by simpa using hp
    refine ⟨by simpa using hphase, htimed, by simpa using hpause, ?_, fun hb => ?_, fun hv => ?_⟩
    · simp [update_halted, hh, ← hphase, herror]
    · exact update_window_open h hpause (hphase.symm.trans hb) ho
    · have := hvote hv
      simp only [permissions, Latest.permissions, Bool.and_eq_true] at this
      simpa [Latest.replace] using this.1

/-! ### Events -/

/-- What the latest snapshot admits is settled by itself, the halt and the window. -/
theorem Admits.congr {c c' : Client} {p : Phase} (h : c.Admits p) (hl : c'.latest = c.latest)
    (hh : c'.halted = c.halted) (hw : c'.window = c.window) : c'.Admits p := by
  refine ⟨?_, h.timed, ?_, ?_, ?_, ?_⟩
  · rw [hl]
    exact h.phase
  · rw [hl]
    exact h.unpaused
  · rw [hh]
    exact h.unhalted
  · rw [hw]
    exact h.window
  · rw [hl]
    exact h.vote

theorem receive_admitted {c : Client} (h : c.Owned) {text : String} {p : Phase}
    (ho : (c.receive text).1.owner = some p) : (c.receive text).1.Admits p := by
  cases received c text with
  | ignored hr =>
    rw [hr] at ho ⊢
    exact h.admitted p ho
  | shown a hr =>
    rw [hr] at ho ⊢
    exact (h.admitted p ho).congr rfl rfl rfl
  | rejected a hr =>
    rw [hr] at ho ⊢
    exact (h.admitted p ho).congr rfl rfl rfl
  | unauthorized a hr =>
    rw [hr] at ho
    cases ho
  | distrusted e hr =>
    rw [hr] at ho
    cases ho
  | updated g player advisory hh _ hr =>
    rw [hr] at ho ⊢
    exact update_admitted h hh ho

theorem alarm_admitted {c : Client} (h : c.Owned) (hc : c.Coupled) {a : Alarm} {p : Phase}
    (ho : (c.alarm a).1.owner = some p) : (c.alarm a).1.Admits p := by
  by_cases hdue : (c.position a.timeline).standing = .due a.generation
  · obtain ⟨t, n⟩ := a
    cases t with
    | countdown => exact (h.admitted p ho).congr rfl rfl rfl
    | reading =>
      -- the window was blocked, so this snapshot is open for buzzing, and now it is open
      have hb := (reading_due_iff c n).mp hdue
      obtain ⟨hh, hpause, hphase⟩ := hc.stage_iff.mp (by simp [hb])
      have hp : p = .buzz := by
        rw [alarm_reading_of_due hb] at ho
        rcases startCountdown_owner ho with hkept | hbuzz
        · exact (h.admitted p hkept).phase.trans hphase
        · exact hbuzz
      obtain ⟨k, o, hs⟩ := alarm_reading_frame hb
      rw [hs]
      exact ⟨hp.trans hphase.symm, by rw [hp]; decide, hpause, hh, fun _ => rfl,
        fun hv => by rw [hp] at hv; cases hv⟩
    | scores => exact (h.admitted p ho).congr rfl rfl rfl
    | advisory =>
      rw [alarm_advisory_of_due ((advisory_due_iff c n).mp hdue)] at ho ⊢
      exact (h.admitted p ho).congr rfl rfl rfl
  · rw [alarm_eq_of_not_due hdue] at ho ⊢
    exact h.admitted p ho

/-- Every event keeps the countdown, its owner and the latest snapshot in agreement. -/
theorem owned_step {c : Client} (h : c.Owned) (hc : c.Coupled) (e : Event) :
    (c.step e).1.Owned := by
  refine ⟨tracked_step h.toTracked e, fun p ho => ?_⟩
  cases e with
  | frame text => exact receive_admitted h ho
  | alarm a => exact alarm_admitted h hc ho
  | action a =>
    obtain ⟨b, hb, -⟩ := step_action_frame c a
    rw [hb] at ho ⊢
    exact (h.admitted p ho).congr rfl rfl rfl
  | refused r => exact (h.admitted p ho).congr rfl rfl rfl
  | leave => cases ho
  | reset => cases ho

theorem owned_run (settings : Settings) (es : List Event) :
    ((fresh settings).run es).1.Owned := by
  have hfresh : (fresh settings).Owned :=
    ⟨⟨by simp [fresh, Countdown.fresh], nofun⟩, nofun⟩
  -- the owner alone is no invariant: a countdown of buzzing needs the window
  have hboth : ((fresh settings).run es).1.Owned ∧ ((fresh settings).run es).1.Coupled :=
    run_invariant (P := fun c => c.Owned ∧ c.Coupled)
      (fun h e => ⟨owned_step h.1 h.2 e, coupled_step h.2 e⟩) ⟨hfresh, .fresh settings⟩ es
  exact hboth.1

/-! ### The main result -/

theorem Owned.admits_of_shown {c : Client} (h : c.Owned) (hs : c.countdown.remaining ≠ none) :
    ∃ p, c.owner = some p ∧ c.Admits p := by
  rw [Countdown.remaining_ne_none_iff, h.shown_iff] at hs
  obtain ⟨p, hp⟩ := Option.ne_none_iff_exists'.mp hs
  exact ⟨p, hp, h.admitted p hp⟩

/-- A countdown that is shown after the phase changed is a new one. -/
theorem generation_lt_of_phase_ne {c : Client} (h : c.Owned) {e : Event}
    (hd : (c.step e).1.Owned) (hs : (c.step e).1.countdown.remaining ≠ none)
    (hp : (c.step e).1.latest.phase ≠ c.latest.phase) :
    c.countdown.generation < (c.step e).1.countdown.generation := by
  obtain ⟨p, hown, hadmits⟩ := hd.admits_of_shown hs
  -- one that has the owner it had would be of both phases
  have hsame : (c.step e).1.owner ≠ c.owner := fun ho =>
    hp (hadmits.phase.symm.trans (h.admitted p (ho ▸ hown)).phase)
  cases step_countdown c e with
  | ticked _ _ _ _ _ _ howner => exact absurd howner hsame
  | changed hc =>
    cases hc with
    | kept _ _ howner => exact absurd howner hsame
    | stopped _ _ howner =>
      rw [howner] at hown
      cases hown
    | started _ _ _ _ _ hgeneration => omega

theorem idle_of_unauthorized {c : Client} (h : c.Owned) {text message : String} {code : Int64}
    (hi : Inbound.ofText text = .ok (.failure .unauthorized code message)) :
    (c.step (.frame text)).1.countdown.remaining = none := by
  cases hh : c.halted with
  | true =>
    rw [step_frame, receive_of_halted hh]
    by_contra hs
    obtain ⟨p, -, hadmits⟩ := h.admits_of_shown hs
    rw [hadmits.unhalted] at hh
    cases hh
  | false =>
    rw [step_frame, receive_of_ok hh hi, take_unauthorized]
    rfl

/-- **Whose countdown is shown**, in every run.  A countdown is shown when, and only when,
a phase owns it; the latest snapshot admits a countdown of that phase; and one that runs
shows a second at least, in the latest generation.  No countdown is shown after a pause,
a halt, a failure that ends the session, leaving or starting over, and one that is shown
after the phase changed is another one. -/
theorem countdown_follows_snapshot (settings : Settings) (es : List Event) :
    let c := ((fresh settings).run es).1
    (c.countdown.remaining ≠ none ↔ ∃ p, c.owner = some p) ∧
    (∀ p, c.owner = some p → c.Admits p) ∧
    (∀ r n, c.countdown.display = .running r n → 1 ≤ r ∧ n = c.countdown.generation) ∧
    ∀ e, let d := (c.step e).1
      (d.latest.game.paused = true ∨ d.halted = true ∨ e = .leave ∨ e = .reset ∨
        (∃ text code message, e = .frame text ∧
          Inbound.ofText text = .ok (.failure .unauthorized code message)) →
        d.countdown.remaining = none) ∧
      (d.latest.phase ≠ c.latest.phase → d.countdown.remaining ≠ none →
        c.countdown.generation < d.countdown.generation) := by
  intro c
  have h : c.Owned := owned_run settings es
  refine ⟨?_, h.admitted, h.current, fun e => ?_⟩
  · rw [Countdown.remaining_ne_none_iff, h.shown_iff, Option.ne_none_iff_exists']
  · intro d
    have hd : d.Owned := owned_step h (coupled_run settings es) e
    refine ⟨?_, fun hp hs => generation_lt_of_phase_ne h hd hs hp⟩
    rintro (hpaused | hhalted | rfl | rfl | ⟨text, code, message, rfl, hi⟩)
    · by_contra hs
      obtain ⟨p, -, hadmits⟩ := hd.admits_of_shown hs
      rw [hadmits.unpaused] at hpaused
      cases hpaused
    · by_contra hs
      obtain ⟨p, -, hadmits⟩ := hd.admits_of_shown hs
      rw [hadmits.unhalted] at hhalted
      cases hhalted
    · rfl
    · rfl
    · exact idle_of_unauthorized h hi

end Client

end QuizClient
