import Mathlib.Data.List.Induction
import QuizClient.Proofs.Timelines

/-!
# The buzz window and the snapshot it belongs to

There is a buzz window while, and only while, the latest snapshot is open for
buzzing: the session goes on, the game is not paused and the phase is the one in
which players buzz.  The window then stands for the open clue of that snapshot,
and while the clue is being read no countdown is shown.

The window changes in four ways only: it stays, it is left, a snapshot enters it
anew, or the alarm of its reading time opens it.  A blocked window therefore
opens by the alarm that its own latest entry asked for, or because a snapshot
after a wrong guess enters it anew.

## Main definitions

* `Coupled` — the window agrees with the latest snapshot.
* `WindowStep` — what one event does to the window.

## Main results

* `update_window` — the window after a snapshot.
* `coupled_step`, `coupled_run` — the window agrees with the latest snapshot.
* `step_window` — what one event does to the window.
* `blocked_asked_for` — a blocked window was entered by an event that asked for
  the alarm it waits for, and nothing touched it since.
* `window_follows_snapshot` — **all of this of every run.**
-/

namespace QuizClient

namespace BuzzWindow

/-! ### Entering and leaving -/

theorem stage_enter (w : BuzzWindow) (g : Game) (pace : ReadingPace) :
    (w.enter g pace).1.stage
      = if g.firstAttempt then .blocked (w.generation + 1) else .open := by
  unfold enter
  split <;> rfl

theorem generation_enter (w : BuzzWindow) (g : Game) (pace : ReadingPace) :
    (w.enter g pace).1.generation = w.generation + 1 := by
  unfold enter
  split <;> rfl

theorem wakes_enter_of_first (w : BuzzWindow) {g : Game} (pace : ReadingPace)
    (h : g.firstAttempt = true) :
    (w.enter g pace).2.2 = [Timeline.reading.wake (w.generation + 1) (pace.delay g.clue)] := by
  simp [enter, h]

theorem isFor_enter (w : BuzzWindow) (g : Game) (pace : ReadingPace) :
    (w.enter g pace).1.isFor g.clue = true := by
  have hstage : (w.enter g pace).1.stage ≠ .closed := by
    rw [stage_enter]
    split <;> simp
  simp [isFor, hstage, clue_enter, Clue.same]

theorem stage_ne_closed_of_isFor {w : BuzzWindow} {clue : Clue} (h : w.isFor clue = true) :
    w.stage ≠ .closed := by
  simp only [isFor, Bool.and_eq_true, bne_iff_ne] at h
  exact h.1

theorem status_eq_closed_iff (w : BuzzWindow) : w.status = .closed ↔ w.stage = .closed := by
  cases h : w.stage <;> simp [status, h]

theorem status_eq_blocked_iff (w : BuzzWindow) :
    w.status = .blocked ↔ ∃ n, w.stage = .blocked n := by
  cases h : w.stage <;> simp [status, h]

theorem status_eq_open_iff (w : BuzzWindow) : w.status = .open ↔ w.stage = .open := by
  cases h : w.stage <;> simp [status, h]

/-- A window for a clue remembers a clue of the same category, text and value. -/
theorem exists_clue_of_isFor {w : BuzzWindow} {clue : Clue} (h : w.isFor clue = true) :
    ∃ q, w.clue = some q ∧ q.category = clue.category ∧ q.text = clue.text ∧
      q.value = clue.value := by
  simp only [isFor, Bool.and_eq_true, Option.any_eq_true, Clue.same, beq_iff_eq] at h
  obtain ⟨-, q, hq, ⟨hcategory, htext⟩, hvalue⟩ := h
  exact ⟨q, hq, hcategory, htext, hvalue⟩

end BuzzWindow

namespace Client

theorem enterWindow_window (c : Client) :
    c.enterWindow.1.window
      = if c.entersAnew then (c.window.enter c.latest.game c.settings.pace).1 else c.window := by
  cases hnew : c.entersAnew with
  | false => rw [enterWindow_of_keeps hnew, if_neg (by simp)]
  | true =>
    rw [if_pos rfl]
    cases hfirst : c.latest.game.firstAttempt with
    | true =>
      rw [enterWindow_of_first hnew hfirst]
      rfl
    | false =>
      obtain ⟨k, o, h⟩ := startCountdown_frame c.entered .buzz c.buzzTime
      rw [enterWindow_of_later hnew hfirst, h]
      rfl

/-- Outside the phase for buzzing, the window is as `settle` leaves it or left. -/
theorem enterPhase_window_of_closed {c : Client} (hb : c.latest.phase ≠ .buzz)
    (hc : c.window.close = c.window) (o : Outcome) : (c.enterPhase o).1.window = c.window := by
  obtain ⟨k, r, h⟩ := keepTime_frame c
  by_cases hd : c.latest.phase = .dispute
  · rw [enterPhase_of_dispute hd, h]
  by_cases he : c.latest.phase = .error
  · rw [enterPhase_of_error he]
    exact hc
  · rw [enterPhase_of_other hb hd he, h]

/-- **The window after a snapshot.** -/
theorem update_window (c : Client) (g : Game) (p : Player) (advisory : Option String) :
    (c.update g p advisory).1.window =
      if g.paused = true ∨ g.phase ≠ .buzz then c.window.close
      else if g.startsBuzz = false ∧ c.window.isFor g.clue = true then c.window
      else (c.window.enter g c.settings.pace).1 := by
  cases hp : g.paused with
  | true =>
    rw [update_of_paused hp, if_pos (.inl rfl)]
    show (c.applied g p advisory).1.window.close = _
    rw [applied_window]
  | false =>
    rw [update_of_running hp]
    by_cases hb : g.phase = .buzz
    · rw [if_neg (by simp [hb]), enterPhase_of_buzz (by simpa using hb), enterWindow_window]
      simp only [entersAnew, settle_latest, settle_window, settle_settings, applied_latest,
        applied_window, applied_settings, phase_replace, game_replace, hb, if_true]
      cases g.startsBuzz <;> cases c.window.isFor g.clue <;> rfl
    · rw [if_pos (.inr hb), enterPhase_window_of_closed (by simpa using hb)]
      · simp [hb]
      · simp [hb]

/-- A snapshot halts the session when it is not paused and its phase is the broken one. -/
theorem update_halted (c : Client) (g : Game) (p : Player) (advisory : Option String) :
    (c.update g p advisory).1.halted = (c.halted || (!g.paused && g.phase == .error)) := by
  cases hp : g.paused with
  | true =>
    rw [update_of_paused hp]
    show (c.applied g p advisory).1.halted = _
    simp
  | false =>
    rw [update_of_running hp]
    have hphase : (c.applied g p advisory).1.settle.latest.phase = g.phase := by simp
    have hhalted : (c.applied g p advisory).1.settle.halted = c.halted := by simp
    generalize (c.applied g p advisory).1.settle = s at hphase hhalted ⊢
    obtain ⟨k, r, hk⟩ := keepTime_frame s
    by_cases hb : s.latest.phase = .buzz
    · obtain ⟨k, r, w, hw⟩ := enterWindow_frame s
      simp [enterPhase_of_buzz hb, hw, hhalted, ← hphase, hb]
    by_cases hd : s.latest.phase = .dispute
    · simp [enterPhase_of_dispute hd, hk, hhalted, ← hphase, hd]
    by_cases he : s.latest.phase = .error
    · simp [enterPhase_of_error he, ← hphase, he, halt, surface]
    · simp [enterPhase_of_other hb hd he, hk, hhalted, ← hphase, he]

/-- After a snapshot that leaves the window blocked no countdown is shown. -/
theorem update_idle_of_blocked {c : Client} {g : Game} {p : Player} {advisory : Option String}
    {n : Nat} (hidle : ∀ m, c.window.stage = .blocked m → c.countdown.display = .idle)
    (hb : (c.update g p advisory).1.window.stage = .blocked n) :
    (c.update g p advisory).1.countdown.display = .idle := by
  by_cases hclosed : g.paused = true ∨ g.phase ≠ .buzz
  · rw [update_window, if_pos hclosed] at hb
    cases hb
  · obtain ⟨hp, hphase⟩ : g.paused = false ∧ g.phase = .buzz := by simpa using hclosed
    have hs : (c.applied g p advisory).1.settle.latest.phase = .buzz := by simpa using hphase
    rw [update_of_running hp, enterPhase_of_buzz hs] at hb ⊢
    cases hnew : (c.applied g p advisory).1.settle.entersAnew with
    | false =>
      -- the window was blocked already, and settling only ever stops a countdown
      rw [enterWindow_of_keeps hnew] at hb ⊢
      have hi : c.countdown.display = .idle := hidle n (by simpa [hphase] using hb)
      simp only [settle_countdown, applied_countdown, hp, Countdown.setPaused_false]
      split
      · rfl
      · exact hi
    | true =>
      cases hfirst : (c.applied g p advisory).1.settle.latest.game.firstAttempt with
      | true =>
        rw [enterWindow_of_first hnew hfirst]
        rfl
      | false =>
        -- a later attempt starts a countdown, but its window is open from the start
        rw [enterWindow_window, if_pos hnew, BuzzWindow.stage_enter, hfirst] at hb
        cases hb

/-! ### The coupling -/

/-- The buzz window agrees with the latest snapshot. -/
structure Coupled (c : Client) : Prop where
  /-- There is a window while the snapshot is open for buzzing. -/
  stage_iff : c.window.stage ≠ .closed ↔
    c.halted = false ∧ c.latest.game.paused = false ∧ c.latest.phase = .buzz
  /-- It stands for the open clue. -/
  clue : c.window.stage ≠ .closed → c.window.isFor c.latest.game.clue = true
  /-- While it is blocked no countdown is shown. -/
  idle : ∀ n, c.window.stage = .blocked n → c.countdown.display = .idle
  /-- It is blocked by the latest entry. -/
  current : ∀ n, c.window.stage = .blocked n → n = c.window.generation

namespace Coupled

/-- There is no window in a halted session. -/
theorem unhalted {c : Client} (h : c.Coupled) (hw : c.window.stage ≠ .closed) :
    c.halted = false :=
  (h.stage_iff.mp hw).1

theorem of_closed {c : Client} (hc : c.window.stage = .closed)
    (h : ¬ (c.halted = false ∧ c.latest.game.paused = false ∧ c.latest.phase = .buzz)) :
    c.Coupled := by
  refine ⟨iff_of_false (fun hne => hne hc) h, fun hne => absurd hc hne, fun n hn => ?_,
    fun n hn => ?_⟩
  · rw [hc] at hn
    cases hn
  · rw [hc] at hn
    cases hn

/-- The coupling is about the halt, the snapshots, the window and the countdown. -/
theorem congr {c c' : Client} (h : c.Coupled) (hh : c'.halted = c.halted)
    (hl : c'.latest = c.latest) (hw : c'.window = c.window)
    (hk : c.countdown.display = .idle → c'.countdown.display = .idle) : c'.Coupled := by
  refine ⟨?_, ?_, fun n hn => ?_, ?_⟩
  · rw [hw, hh, hl]
    exact h.stage_iff
  · rw [hw, hl]
    exact h.clue
  · rw [hw] at hn
    exact hk (h.idle n hn)
  · rw [hw]
    exact h.current

theorem fresh (settings : Settings) : (Client.fresh settings).Coupled :=
  of_closed rfl (fun h => by cases h.2.2)

theorem surface {c : Client} (h : c.Coupled) (a : Advisory) : (c.surface a).1.Coupled :=
  h.congr rfl rfl rfl id

theorem halt (c : Client) (e : ProtocolError) : (c.halt e).1.Coupled :=
  of_closed rfl (by simp [Client.halt, Client.surface])

theorem discard (c : Client) : c.discard.Coupled :=
  of_closed rfl (fun h => by cases h.2.2)

theorem update {c : Client} (h : c.Coupled) (hh : c.halted = false) (g : Game) (p : Player)
    (advisory : Option String) : (c.update g p advisory).1.Coupled := by
  have hgame : (c.update g p advisory).1.latest.game = g := by simp
  by_cases hclosed : g.paused = true ∨ g.phase ≠ .buzz
  · -- the snapshot leaves the window, or finds none
    refine of_closed (by rw [update_window, if_pos hclosed]; rfl) ?_
    rintro ⟨-, hp, hb⟩
    rw [hgame] at hp
    rw [update_latest, phase_replace] at hb
    rcases hclosed with hc | hc
    · simp [hp] at hc
    · exact hc hb
  · obtain ⟨hp, hb⟩ : g.paused = false ∧ g.phase = .buzz := by simpa using hclosed
    have hopen : (c.update g p advisory).1.halted = false ∧
        (c.update g p advisory).1.latest.game.paused = false ∧
        (c.update g p advisory).1.latest.phase = .buzz := by
      refine ⟨?_, ?_, ?_⟩
      · simp [update_halted, hh, hb]
      · rw [hgame, hp]
      · rw [update_latest, phase_replace, hb]
    have hfor : (c.update g p advisory).1.window.isFor g.clue = true := by
      rw [update_window, if_neg hclosed]
      split
      · next hk => exact hk.2
      · exact BuzzWindow.isFor_enter _ _ _
    refine ⟨iff_of_true (BuzzWindow.stage_ne_closed_of_isFor hfor) hopen, fun _ => ?_,
      fun n hn => update_idle_of_blocked h.idle hn, fun n hn => ?_⟩
    · rw [hgame]
      exact hfor
    · rw [update_window, if_neg hclosed] at hn ⊢
      by_cases hk : g.startsBuzz = false ∧ c.window.isFor g.clue = true
      · rw [if_pos hk] at hn ⊢
        exact h.current n hn
      · rw [if_neg hk] at hn ⊢
        rw [BuzzWindow.stage_enter] at hn
        rw [BuzzWindow.generation_enter]
        split at hn
        · cases hn
          rfl
        · cases hn

theorem receive {c : Client} (h : c.Coupled) (text : String) : (c.receive text).1.Coupled := by
  cases received c text with
  | ignored hr =>
    rw [hr]
    exact h
  | shown a hr =>
    rw [hr]
    exact h.surface a
  | rejected a hr =>
    have hfree : { c with buzzSpent := false }.Coupled := h.congr rfl rfl rfl id
    rw [hr]
    exact hfree.surface a
  | unauthorized a hr =>
    rw [hr]
    exact (discard c).congr rfl rfl rfl id
  | distrusted e hr =>
    rw [hr]
    exact halt c e
  | updated g p advisory hh _ hr =>
    rw [hr]
    exact h.update hh g p advisory

theorem leave (c : Client) : c.leave.Coupled := of_closed rfl (fun h => by cases h.2.2)

theorem reset (c : Client) : c.reset.Coupled := of_closed rfl (fun h => by cases h.2.2)

theorem alarm {c : Client} (h : c.Coupled) (a : Alarm) : (c.alarm a).1.Coupled := by
  by_cases hdue : (c.position a.timeline).standing = .due a.generation
  · obtain ⟨t, n⟩ := a
    cases t with
    | countdown => exact h.congr rfl rfl rfl fun hi => by simp [Client.alarm, Countdown.tick, hi]
    | reading =>
      have hb := (reading_due_iff c n).mp hdue
      have hne : c.window.stage ≠ .closed := by
        intro hclosed
        rw [hb] at hclosed
        cases hclosed
      obtain ⟨k, o, hs⟩ := alarm_reading_frame hb
      rw [hs]
      refine ⟨iff_of_true ?_ (h.stage_iff.mp hne), fun _ => ?_, fun m hm => ?_, fun m hm => ?_⟩
      · intro hclosed
        cases hclosed
      · have hfor := h.clue hne
        simp only [BuzzWindow.isFor, Bool.and_eq_true] at hfor ⊢
        exact ⟨rfl, hfor.2⟩
      · cases hm
      · cases hm
    | scores =>
      rw [alarm_scores_of_due ((scores_due_iff c n).mp hdue)]
      exact h.congr rfl rfl rfl id
    | advisory =>
      rw [alarm_advisory_of_due ((advisory_due_iff c n).mp hdue)]
      exact h.congr rfl rfl rfl id
  · rw [alarm_eq_of_not_due hdue]
    exact h

end Coupled

/-- Every event keeps the window in agreement with the latest snapshot. -/
theorem coupled_step {c : Client} (h : c.Coupled) (e : Event) : (c.step e).1.Coupled := by
  cases e with
  | frame text => exact h.receive text
  | alarm a => exact h.alarm a
  | action a =>
    obtain ⟨b, hb, -⟩ := step_action_frame c a
    rw [hb]
    exact h.congr rfl rfl rfl id
  | refused r => exact h.surface _
  | leave => exact .leave c
  | reset => exact .reset c

theorem coupled_run (settings : Settings) (es : List Event) :
    ((fresh settings).run es).1.Coupled :=
  run_invariant coupled_step (.fresh settings) es

/-! ### What one event does to the window -/

/-- What one event does to the window. -/
inductive WindowStep (c : Client) (e : Event) (c' : Client) (wakes : List Wake) : Prop
  /-- It stays as it is. -/
  | kept (h : c'.window = c.window)
  /-- It is left. -/
  | left (h : c'.window = c.window.close)
  /-- A snapshot enters it anew, and asks for the alarm of its reading time. -/
  | entered (text : String) (g : Game) (p : Player) (advisory : Option String)
      (he : e = .frame text) (hi : Inbound.ofText text = .ok (.update g p advisory))
      (hw : c'.window = (c.window.enter g c.settings.pace).1)
      (hwakes : ∀ w ∈ (c.window.enter g c.settings.pace).2.2, w ∈ wakes)
  /-- The alarm of the reading time opens it. -/
  | opened (n : Nat) (he : e = .alarm ⟨.reading, n⟩) (hb : c.window.stage = .blocked n)
      (hw : c'.window = { c.window with stage := .open })

/-- A snapshot that enters the window asks for what the entry asks for. -/
theorem mem_update_of_mem_enter {c : Client} {g : Game} {p : Player} {advisory : Option String}
    (hopen : ¬ (g.paused = true ∨ g.phase ≠ .buzz))
    (hnew : ¬ (g.startsBuzz = false ∧ c.window.isFor g.clue = true)) {w : Wake}
    (hw : w ∈ (c.window.enter g c.settings.pace).2.2) : w ∈ (c.update g p advisory).2.2 := by
  obtain ⟨hp, hb⟩ : g.paused = false ∧ g.phase = .buzz := by simpa using hopen
  have hphase : (c.applied g p advisory).1.settle.latest.phase = .buzz := by simpa using hb
  have henters : (c.applied g p advisory).1.settle.entersAnew = true := by
    cases hs : g.startsBuzz <;> simp_all [entersAnew]
  have hfirst : g.firstAttempt = true := by
    by_contra hf
    simp [BuzzWindow.enter, hf] at hw
  rw [update_of_running hp, enterPhase_of_buzz hphase,
    enterWindow_of_first henters (by simpa using hfirst)]
  refine List.mem_append_right _ ?_
  simpa [hb] using hw

theorem receive_window (c : Client) (text : String) :
    WindowStep c (.frame text) (c.receive text).1 (c.receive text).2.2 := by
  cases received c text with
  | ignored h => exact .kept (by rw [h])
  | shown a h => exact .kept (by rw [h]; rfl)
  | rejected a h => exact .kept (by rw [h]; rfl)
  | unauthorized a h => exact .left (by rw [h]; rfl)
  | distrusted e h => exact .left (by rw [h]; rfl)
  | updated g p advisory _ hi h =>
    rw [h]
    by_cases hclosed : g.paused = true ∨ g.phase ≠ .buzz
    · exact .left (by rw [update_window, if_pos hclosed])
    · by_cases hk : g.startsBuzz = false ∧ c.window.isFor g.clue = true
      · exact .kept (by rw [update_window, if_neg hclosed, if_pos hk])
      · have hw : (c.update g p advisory).1.window = (c.window.enter g c.settings.pace).1 := by
          rw [update_window, if_neg hclosed, if_neg hk]
        exact .entered text g p advisory rfl hi hw
          fun w hw => mem_update_of_mem_enter hclosed hk hw

/-- **What one event does to the window.** -/
theorem step_window (c : Client) (e : Event) :
    WindowStep c e (c.step e).1 (c.step e).2.2 := by
  cases e with
  | frame text => exact receive_window c text
  | action a =>
    obtain ⟨b, hb, -⟩ := step_action_frame c a
    exact .kept (by rw [hb])
  | refused r => exact .kept rfl
  | leave => exact .left rfl
  | reset => exact .left rfl
  | alarm a =>
    by_cases hdue : (c.position a.timeline).standing = .due a.generation
    · obtain ⟨t, n⟩ := a
      cases t with
      | countdown => exact .kept rfl
      | reading =>
        have hb := (reading_due_iff c n).mp hdue
        obtain ⟨k, o, hs⟩ := alarm_reading_frame hb
        refine .opened n rfl hb ?_
        rw [step_alarm, hs]
      | scores => exact .kept rfl
      | advisory =>
        refine .kept ?_
        rw [step_alarm, alarm_advisory_of_due ((advisory_due_iff c n).mp hdue)]
    · exact .kept (by rw [step_alarm, alarm_eq_of_not_due hdue])

/-- Some event of a run asked for the alarm of the reading time of a generation, and the
window has been as it is now ever since. -/
def BlockedSince (settings : Settings) (es : List Event) (n : Nat) : Prop :=
  ∃ pre f post, es = pre ++ f :: post ∧
    (∃ w ∈ (((fresh settings).run pre).1.step f).2.2, w.alarm = ⟨.reading, n⟩) ∧
    ∀ mid, mid <+: post →
      ((fresh settings).run (pre ++ f :: mid)).1.window = ((fresh settings).run es).1.window

/-- **A blocked window was entered by an event that asked for the alarm it waits for**,
and nothing touched it since. -/
theorem blocked_asked_for (settings : Settings) (es : List Event) {n : Nat}
    (hb : ((fresh settings).run es).1.window.stage = .blocked n) : BlockedSince settings es n := by
  induction es using List.reverseRecOn with
  | nil => cases hb
  | append_singleton es e ih =>
    have hrun : ((fresh settings).run (es ++ [e])).1 = (((fresh settings).run es).1.step e).1 := by
      simp [run_append]
    rw [hrun] at hb
    cases step_window ((fresh settings).run es).1 e with
    | kept h =>
      -- the window is the one before, so its entry lies further back
      rw [h] at hb
      obtain ⟨pre, f, post, rfl, hw, hsince⟩ := ih hb
      refine ⟨pre, f, post ++ [e], by simp, hw, fun mid hmid => ?_⟩
      rw [hrun, h]
      rcases List.prefix_concat_iff.mp hmid with rfl | hmid
      · rw [← List.cons_append, ← List.append_assoc, hrun, h]
      · exact hsince mid hmid
    | left h =>
      rw [h] at hb
      cases hb
    | entered text g p advisory he hi h hwakes =>
      refine ⟨es, e, [], rfl, ?_, fun mid hmid => by rw [List.prefix_nil.mp hmid]⟩
      rw [h, BuzzWindow.stage_enter] at hb
      split at hb
      · next hfirst =>
        cases hb
        rw [BuzzWindow.wakes_enter_of_first _ _ hfirst] at hwakes
        exact ⟨_, hwakes _ (List.mem_singleton_self _), rfl⟩
      · cases hb
    | opened m he hbm h =>
      rw [h] at hb
      cases hb

/-- **The buzz window follows the latest snapshot**, in every run.  There is a window
while, and only while, the session goes on and the latest snapshot is not paused and
open for buzzing; it remembers the open clue of that snapshot; while it is blocked no
countdown is shown; and it goes from blocked to open only by the alarm that its latest
entry asked for, or because a snapshot after a wrong guess enters it anew. -/
theorem window_follows_snapshot (settings : Settings) (es : List Event) :
    let c := ((fresh settings).run es).1
    (c.window.status ≠ .closed ↔
      c.halted = false ∧ c.latest.game.paused = false ∧ c.latest.phase = .buzz) ∧
    (c.window.status ≠ .closed →
      ∃ q, c.window.clue = some q ∧ q.category = c.latest.game.clue.category ∧
        q.text = c.latest.game.clue.text ∧ q.value = c.latest.game.clue.value) ∧
    (c.window.status = .blocked → c.countdown.remaining = none) ∧
    ∀ e, c.window.status = .blocked → (c.step e).1.window.status = .open →
      (∃ n, e = .alarm ⟨.reading, n⟩ ∧ n = c.window.generation ∧ BlockedSince settings es n) ∨
      ∃ text g p advisory, e = .frame text ∧
        Inbound.ofText text = .ok (.update g p advisory) ∧ g.guessedWrong ≠ [] ∧
        (c.step e).1.window = (c.window.enter g c.settings.pace).1 := by
  intro c
  have h : c.Coupled := coupled_run settings es
  refine ⟨?_, fun hne => ?_, fun hb => ?_, fun e hb ho => ?_⟩
  · rw [Ne, BuzzWindow.status_eq_closed_iff]
    exact h.stage_iff
  · rw [Ne, BuzzWindow.status_eq_closed_iff] at hne
    exact BuzzWindow.exists_clue_of_isFor (h.clue hne)
  · obtain ⟨n, hn⟩ := (BuzzWindow.status_eq_blocked_iff _).mp hb
    simp [Countdown.remaining, h.idle n hn]
  · obtain ⟨n, hn⟩ := (BuzzWindow.status_eq_blocked_iff _).mp hb
    rw [BuzzWindow.status_eq_open_iff] at ho
    cases step_window c e with
    | kept hw =>
      rw [hw, hn] at ho
      cases ho
    | left hw =>
      rw [hw] at ho
      cases ho
    | entered text g p advisory he hi hw _ =>
      refine .inr ⟨text, g, p, advisory, he, hi, fun hnone => ?_, hw⟩
      rw [hw, BuzzWindow.stage_enter, if_pos (by simp [Game.firstAttempt, hnone])] at ho
      cases ho
    | opened m he hm _ =>
      exact .inl ⟨m, he, h.current m hm, blocked_asked_for settings es hm⟩

end Client

end QuizClient
