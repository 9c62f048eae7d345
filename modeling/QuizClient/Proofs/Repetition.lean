import Mathlib.Data.List.Nodup
import QuizClient.Proofs.Buzzing
import QuizClient.Proofs.Halting
import QuizClient.Proofs.Presence
import QuizClient.Proofs.ScoreHistory

/-!
# A snapshot that comes once more

The server sends the whole state of the game whenever anything happens, so the snapshot that
a client has already often comes once more.  Every phase then finds its work done: the
countdown it asks for is there, unless there would be nothing to show; the buzz window stands
for the open clue; what must not go on has been stopped; and no score has moved.  So nothing
is disturbed, at whatever moment the snapshot comes, but that a buzz may go out again.

## Main definitions

* `BuzzWindow.Tidy` — a window that was left remembers no clue.
* `Client.UpToDate` — what the latest snapshot asks is done.
* `Client.Occasion` — when a phase of play may ask something of the countdown.
* `Client.InOrder` — the parts of a client agree with one another.
* `Client.repeated` — the client once its latest snapshot came once more.

## Main results

* `Client.tidy_step`, `Client.UpToDate.step` — every event keeps both.
* `keepTime_done`, `enterPhase_repeated` — a phase that finds its work done.
* `update_repeated` — the same snapshot once more, as one equation.
* `repetition_disturbs_nothing` — **this in every run.**
-/

namespace QuizClient

/-- None of the hints with which a snapshot starts something is set. -/
def Game.Unhinted (g : Game) : Prop :=
  g.startsBuzz = false ∧ g.startsFinalWager = false ∧ g.startsFinalAnswer = false

instance (g : Game) : Decidable g.Unhinted :=
  inferInstanceAs (Decidable (_ ∧ _ ∧ _))

/-! ### Scores that do not move -/

/-- No score moves between a list of players and itself. -/
theorem scoreChanges_self {players : List Player} (h : (players.map (·.id)).Nodup) :
    scoreChanges players players = [] := by
  rw [scoreChanges_eq h, List.filterMap_eq_nil_iff]
  intro p hp
  have hfind : players.find? (·.id == p.id) = some p := by
    obtain ⟨q, hq⟩ : ∃ q, players.find? (·.id == p.id) = some q :=
      Option.isSome_iff_exists.mp (List.find?_isSome.mpr ⟨p, hp, by simp⟩)
    have hid : q.id = p.id := by simpa using List.find?_some hq
    rw [hq, List.inj_on_of_nodup_map h (List.mem_of_find?_eq_some hq) hp hid]
  rw [scoreChange?_of_before hfind]
  simp

/-! ### Nothing to stop -/

theorem Countdown.cancel_of_idle {k : Countdown} (h : k.display = .idle) : k.cancel = k := by
  rw [cancel, ← h]

/-- A window that was left remembers no clue. -/
def BuzzWindow.Tidy (w : BuzzWindow) : Prop := w.stage = .closed → w.clue = none

theorem BuzzWindow.close_of_closed {w : BuzzWindow} (ht : w.Tidy) (h : w.stage = .closed) :
    w.close = w := by
  rw [close, if_pos h, ← h, ← ht h]

namespace Client

/-- **Every event keeps the window tidy.** -/
theorem tidy_step {c : Client} (h : c.window.Tidy) (e : Event) : (c.step e).1.window.Tidy := by
  cases step_window c e with
  | kept hw =>
    rw [hw]
    exact h
  | left hw =>
    rw [hw]
    exact fun _ => rfl
  | entered _ g _ _ _ _ hw =>
    have hthere := BuzzWindow.stage_ne_closed_of_isFor (c.window.isFor_enter g c.settings.pace)
    rw [hw]
    exact fun hclosed => absurd hclosed hthere
  | opened _ _ _ hw =>
    rw [hw]
    exact nofun

theorem tidy_run (settings : Settings) (es : List Event) :
    ((fresh settings).run es).1.window.Tidy :=
  run_invariant (P := fun c => c.window.Tidy) tidy_step (fun _ => rfl) es

theorem cancelCountdown_of_idle {c : Client} (hk : c.countdown.display = .idle)
    (ho : c.owner = none) : c.cancelCountdown = c := by
  rw [cancelCountdown, Countdown.cancel_of_idle hk, ← ho]

/-- Starting a countdown takes none its owner. -/
theorem startCountdown_owner_ne_none (c : Client) (p : Phase) (d : Duration)
    (h : c.owner ≠ none) : (c.startCountdown p d).1.owner ≠ none := by
  unfold startCountdown
  split
  · nofun
  · exact h

theorem stopTimers_of_resting {c : Client} (h : c.Resting) (ht : c.window.Tidy) :
    c.stopTimers = c := by
  rw [stopTimers, cancelCountdown_of_idle h.idle h.unowned, BuzzWindow.close_of_closed ht h.closed]

/-! ### What a snapshot asks is done -/

/-- While the session goes on and the game is not paused, what the latest snapshot asks is
done. -/
structure UpToDate (c : Client) : Prop where
  /-- The countdown of its phase was started, unless there would be nothing to show. -/
  started : c.halted = false → c.latest.game.paused = false →
    ∀ d, c.timing = .ensure d → c.owner ≠ none ∨ d.roundUp = 0
  /-- It is not of the broken phase, which would have halted the session. -/
  unbroken : c.halted = false → c.latest.game.paused = false → c.latest.phase ≠ .error

namespace UpToDate

variable {c d : Client}

/-- This is about the settings, the snapshots and the halt, and a countdown that was started
may go on or be started again. -/
theorem congr (h : c.UpToDate) (hs : d.settings = c.settings) (hl : d.latest = c.latest)
    (hh : d.halted = c.halted) (ho : c.owner ≠ none → d.owner ≠ none) : d.UpToDate := by
  refine ⟨?_, ?_⟩
  · rw [timing_congr hl hs hh, hh, hl]
    exact fun hgoes hp t ht => (h.started hgoes hp t ht).imp_left ho
  · rw [hh, hl]
    exact h.unbroken

/-- Before a game there is nothing to do. -/
theorem of_preGame (hphase : c.latest.phase = .preGame) : c.UpToDate := by
  refine ⟨fun _ _ t ht => ?_, fun _ _ => ?_⟩
  · rw [timing_of_untimed (by rw [hphase]; decide)] at ht
    cases ht
  · rw [hphase]
    nofun

theorem of_halted (hh : d.halted = true) : d.UpToDate := by
  refine ⟨fun hgoes => ?_, fun hgoes => ?_⟩
  · rw [hh] at hgoes
    cases hgoes
  · rw [hh] at hgoes
    cases hgoes

/-- A phase that asks for a countdown has one once it is entered, unless there would be
nothing to show. -/
theorem of_enterPhase (hp : c.countdown.paused = false) {t : Duration}
    (ht : c.timing = .ensure t) (o : Outcome) :
    (c.enterPhase o).1.owner ≠ none ∨ t.roundUp = 0 := by
  have htimed : c.latest.phase ∈ timedPhases := (timed_of_timing (by rw [ht]; nofun)).1
  have hbuzz : c.latest.phase ≠ .buzz := fun hb => by
    rw [timing_of_buzz hb] at ht
    cases ht
  have hdispute : c.latest.phase ≠ .dispute := fun hd => by
    rw [hd] at htimed
    exact absurd htimed (by decide)
  have herror : c.latest.phase ≠ .error := fun he => by
    rw [he] at htimed
    exact absurd htimed (by decide)
  rw [enterPhase_of_other hbuzz hdispute herror]
  unfold keepTime
  simp only [ht]
  split
  · next ho => exact .inl (by rw [ho]; nofun)
  · by_cases hzero : t.roundUp = 0
    · exact .inr hzero
    · rw [startCountdown_owned hp hzero]
      exact .inl nofun

theorem update (hh : c.halted = false) (g : Game) (p : Player) (advisory : Option String) :
    (c.update g p advisory).1.UpToDate := by
  have hgame : (c.update g p advisory).1.latest.game = g := by simp
  refine ⟨fun hgoes hp t ht => ?_, fun hgoes hp he => ?_⟩
  · -- the phase of play asks for the same before it is entered as after it
    have htiming : (c.update g p advisory).1.timing = (c.applied g p advisory).1.settle.timing :=
      timing_congr (by simp) (by simp) (by simp [hgoes, hh])
    rw [htiming] at ht
    rw [hgame] at hp
    rw [update_of_running hp]
    exact of_enterPhase (settle_unpaused c hp p advisory) ht _
  · rw [hgame] at hp
    have herror : g.phase = .error := by simpa using he
    rw [update_halted, hp, herror] at hgoes
    simp at hgoes

theorem receive (h : c.UpToDate) (text : String) : (c.receive text).1.UpToDate := by
  cases received c text with
  | ignored hr =>
    rw [hr]
    exact h
  | shown a hr =>
    rw [hr]
    exact h.congr rfl rfl rfl id
  | rejected a hr =>
    rw [hr]
    exact h.congr rfl rfl rfl id
  | unauthorized a hr =>
    rw [hr]
    exact of_preGame rfl
  | distrusted e hr =>
    rw [hr]
    exact of_halted rfl
  | updated g p advisory hh _ hr =>
    rw [hr]
    exact update hh g p advisory

/-- An alarm takes no countdown its owner. -/
theorem alarm (h : c.UpToDate) (a : Alarm) : (c.alarm a).1.UpToDate := by
  cases rang c a with
  | stale heq =>
    rw [heq]
    exact h
  | ticked r n _ _ heq =>
    rw [heq]
    split
    · exact h.congr rfl rfl rfl id
    · exact h.congr rfl rfl rfl id
  | opened n _ _ heq =>
    let b : Client := { c with window := { c.window with stage := .open } }
    obtain ⟨k, o, hs⟩ := startCountdown_frame b .buzz c.buzzTime
    have howned : c.owner ≠ none → (b.startCountdown .buzz c.buzzTime).1.owner ≠ none :=
      startCountdown_owner_ne_none b .buzz c.buzzTime
    rw [heq]
    show (b.startCountdown .buzz c.buzzTime).1.UpToDate
    rw [hs] at howned ⊢
    exact h.congr rfl rfl rfl howned
  | faded s m _ heq =>
    rw [heq]
    exact h.congr rfl rfl rfl id

/-- **Every event leaves done what the latest snapshot asks.** -/
theorem step (h : c.UpToDate) (e : Event) : (c.step e).1.UpToDate := by
  cases e with
  | frame text => exact h.receive text
  | alarm a => exact h.alarm a
  | action a =>
    obtain ⟨b, hb, -⟩ := step_action_frame c a
    rw [hb]
    exact h.congr rfl rfl rfl id
  | refused r => exact h.congr rfl rfl rfl id
  | leave => exact of_preGame rfl
  | reset => exact of_preGame rfl

theorem run (settings : Settings) (es : List Event) :
    ((fresh settings).run es).1.UpToDate :=
  run_invariant step (of_preGame rfl) es

end UpToDate

/-! ### The same snapshot once more -/

/-- The client once its latest snapshot came once more: the snapshots count as replaced, the
countdown knows whether the game is paused, and a buzz may go out again. -/
def repeated (c : Client) : Client :=
  { c with
    latest := c.latest.replace c.latest.game c.latest.player
    countdown := { c.countdown with paused := c.latest.game.paused }
    buzzSpent := false }

/-- The client with a vote asked for, or not. -/
def prompting (c : Client) (vote : Bool) : Client := { c with disputePrompt := vote }

theorem prompting_same {c : Client} {vote : Bool} (h : c.disputePrompt = vote) :
    c.prompting vote = c := by
  rw [prompting, ← h]

section repeated

variable {c : Client}

theorem applied_repeated (hids : (c.latest.game.players.map (·.id)).Nodup)
    (hidle : c.latest.game.paused = true → c.countdown.display = .idle) :
    c.applied c.latest.game c.latest.player none = (c.repeated, .quiet, []) := by
  have hpaused : c.countdown.setPaused c.latest.game.paused
      = { c.countdown with paused := c.latest.game.paused } := by
    cases hp : c.latest.game.paused with
    | false => rfl
    | true => exact Countdown.cancel_of_idle (k := { c.countdown with paused := true }) (hidle hp)
  unfold applied replace
  rw [ScoreChanges.observe_of_same (scoreChanges_self hids)]
  simp only [adviseUpdate, hpaused]
  rfl

/-- A phase that finds its countdown as it asks leaves it. -/
theorem keepTime_done (hstop : c.timing = .stop → c.cancelCountdown = c)
    (hensure : ∀ d, c.timing = .ensure d → c.owner = some c.latest.phase ∨ d.roundUp = 0)
    (hrestart : ∀ d, c.timing ≠ .restart d) : c.keepTime = (c, []) := by
  unfold keepTime
  cases ht : c.timing with
  | stop => simp only [hstop ht]
  | keep => rfl
  | ensure d =>
    rcases hensure d ht with ho | hzero
    · exact if_pos ho
    · simp only [startCountdown_of_refused (.inr hzero), ite_self]
  | restart d => exact absurd ht (hrestart d)

/-- When a phase of play may ask something of the countdown. -/
inductive Occasion (c : Client) : Timing → Prop where
  /-- Nothing is to be timed. -/
  | stop (h : c.latest.phase ∉ timedPhases ∨
      c.latest.phase = .vote ∧ c.permissions.vote = false) : Occasion c .stop
  /-- What is timed was started earlier, or starts later. -/
  | keep : Occasion c .keep
  /-- The phase is timed. -/
  | ensure (d : Duration) : Occasion c (.ensure d)
  /-- A stage of the final round starts with this snapshot. -/
  | restart (f : FinalStage) (d : Duration) (h : f.hint c.latest.game = true) :
      Occasion c (.restart d)

theorem occasion_final {f : FinalStage} (hr : c.latest.round = .final)
    (hf : c.latest.phase = f.phase) : c.Occasion c.timing := by
  rw [timing_final hr hf]
  split
  · next hhint => exact .restart f _ hhint
  · exact .keep

/-- **What the phase of play asks of the countdown.** -/
theorem occasion (c : Client) : c.Occasion c.timing := by
  cases hp : c.latest.phase with
  | pick =>
    rw [timing_of_pick hp]
    exact .ensure _
  | buzz =>
    rw [timing_of_buzz hp]
    exact .keep
  | answer =>
    by_cases hr : c.latest.round = .final
    · exact occasion_final (f := .answer) hr hp
    · rw [timing_of_answer hp hr]
      exact .ensure _
  | wager =>
    by_cases hr : c.latest.round = .final
    · exact occasion_final (f := .wager) hr hp
    · rw [timing_of_wager hp hr]
      exact .ensure _
  | vote =>
    rw [timing_of_vote hp]
    split
    · exact .ensure _
    · next hv => exact .stop (.inr ⟨hp, by simpa using hv⟩)
  | preGame | boardIntro | dispute | postGame | error =>
    rw [timing_of_untimed (by rw [hp]; decide)]
    exact .stop (.inl (by rw [hp]; decide))

/-- Without a hint no countdown starts anew. -/
theorem timing_ne_restart (hg : c.latest.game.Unhinted) (d : Duration) : c.timing ≠ .restart d := by
  intro heq
  have hwhen := c.occasion
  rw [heq] at hwhen
  obtain ⟨-, hwager, hanswer⟩ := hg
  cases hwhen with
  | restart f _ hhint =>
    cases f with
    | answer => exact absurd hhint (by rw [FinalStage.hint, hanswer]; nofun)
    | wager => exact absurd hhint (by rw [FinalStage.hint, hwager]; nofun)

/-- A phase whose countdown the latest snapshot admits does not stop it. -/
theorem Admits.timing_ne_stop {p : Phase} (h : c.Admits p) : c.timing ≠ .stop := by
  intro heq
  have hwhen := c.occasion
  rw [heq] at hwhen
  cases hwhen with
  | stop hstop =>
    rcases hstop with huntimed | ⟨hphase, hvote⟩
    · exact huntimed (h.phase ▸ h.timed)
    · have hmay : c.permissions.vote = true := by
        simp [permissions, Latest.permissions, Latest.playsIn, h.vote (h.phase.trans hphase),
          h.unhalted, h.unpaused, hphase]
      rw [hvote] at hmay
      cases hmay

/-- A client whose session goes on and whose parts agree with one another and with the latest
snapshot. -/
structure InOrder (c : Client) : Prop where
  /-- The session goes on. -/
  unhalted : c.halted = false
  /-- What the snapshot asks is done. -/
  upToDate : c.UpToDate
  /-- The countdown agrees with its owner and the snapshot. -/
  owned : c.Owned
  /-- The window agrees with the snapshot. -/
  coupled : c.Coupled
  /-- A window that was left remembers no clue. -/
  tidy : c.window.Tidy
  /-- The vote that is asked for agrees with the snapshot. -/
  prompted : c.Prompted

namespace InOrder

theorem owner_eq (h : c.InOrder) (ho : c.owner ≠ none) : c.owner = some c.latest.phase := by
  obtain ⟨p, hp⟩ := Option.ne_none_iff_exists'.mp ho
  rw [hp, (h.owned.admitted p hp).phase]

/-- While the game is paused nothing is left to stop. -/
theorem resting (h : c.InOrder) (hp : c.latest.game.paused = true) : c.Resting := by
  have hunowned : c.owner = none := by
    by_contra ho
    have hunpaused := (h.owned.admitted _ (h.owner_eq ho)).unpaused
    rw [hp] at hunpaused
    cases hunpaused
  refine ⟨?_, hunowned, ?_⟩
  · by_contra hshown
    exact h.owned.shown_iff.mp hshown hunowned
  · by_contra hopen
    have hunpaused := (h.coupled.stage_iff.mp hopen).2.1
    rw [hp] at hunpaused
    cases hunpaused

theorem disputePrompt_eq (h : c.InOrder) :
    c.disputePrompt = (!c.latest.game.paused && c.latest.phase == .dispute) := by
  have hiff := h.prompted
  unfold Prompted at hiff
  cases hprompt : c.disputePrompt with
  | true => simp [(hiff.mp hprompt).2.1, (hiff.mp hprompt).2.2]
  | false =>
    rw [hprompt] at hiff
    simpa [h.unhalted] using hiff

/-- The phase of play finds nothing to leave behind. -/
theorem settle_repeated (h : c.InOrder) :
    c.repeated.settle = c.repeated.prompting false := by
  have howner : c.owner.any (· != c.latest.phase) = false := by
    by_cases ho : c.owner = none
    · rw [ho]
      rfl
    · rw [h.owner_eq ho]
      simp
  have hwindow : (if c.latest.phase = .buzz then c.window else c.window.close) = c.window := by
    split
    · rfl
    · next hb =>
      refine BuzzWindow.close_of_closed h.tidy ?_
      by_contra hopen
      exact hb (h.coupled.stage_iff.mp hopen).2.2
  have hphase : c.repeated.latest.phase = c.latest.phase := rfl
  rw [settle_eq, hphase]
  simp only [repeated, prompting, howner, hwindow, Bool.false_eq_true, if_false]

/-- The phase of play finds its countdown as it asks, whether a vote is asked for or not. -/
theorem keepTime_repeated (h : c.InOrder) (hg : c.latest.game.Unhinted)
    (hp : c.latest.game.paused = false) (vote : Bool) :
    (c.repeated.prompting vote).keepTime = (c.repeated.prompting vote, []) := by
  have htiming : (c.repeated.prompting vote).timing = c.timing := rfl
  refine keepTime_done (fun hstop => ?_) (fun d hensure => ?_) fun d hrestart => ?_
  · rw [htiming] at hstop
    have hunowned : c.owner = none := by
      by_contra ho
      exact (h.owned.admitted _ (h.owner_eq ho)).timing_ne_stop hstop
    refine cancelCountdown_of_idle (c := c.repeated.prompting vote) ?_ hunowned
    by_contra hshown
    exact h.owned.shown_iff.mp hshown hunowned
  · rw [htiming] at hensure
    exact (h.upToDate.started h.unhalted hp d hensure).imp_left h.owner_eq
  · rw [htiming] at hrestart
    exact timing_ne_restart hg d hrestart

/-- **A phase of play that finds its work done does nothing** but asks for the vote that is
asked for. -/
theorem enterPhase_repeated (h : c.InOrder) (hg : c.latest.game.Unhinted)
    (hp : c.latest.game.paused = false) :
    (c.repeated.prompting false).enterPhase .quiet
      = (c.repeated, ⟨none, none, c.disputePrompt⟩, []) := by
  have hprompt : c.disputePrompt = (c.latest.phase == .dispute) := by
    rw [h.disputePrompt_eq, hp]
    rfl
  have hkeep := h.keepTime_repeated hg hp false
  by_cases hd : c.latest.phase = .dispute
  · have hasked : c.repeated.disputePrompt = true := hprompt.trans (beq_iff_eq.mpr hd)
    rw [enterPhase_of_dispute (c := c.repeated.prompting false) hd, hkeep]
    show (c.repeated.prompting true, _, _) = _
    rw [prompting_same hasked, ← hasked]
    rfl
  -- outside the phase for it, no vote is asked for before or after
  have hnone : c.repeated.disputePrompt = false := hprompt.trans (beq_eq_false_iff_ne.mpr hd)
  have hquiet : (⟨none, none, c.disputePrompt⟩ : Outcome) = .quiet := congrArg _ hnone
  rw [prompting_same hnone] at hkeep ⊢
  rw [hquiet]
  by_cases hb : c.latest.phase = .buzz
  · have hkept : c.repeated.entersAnew = false := by
      have hfor := h.coupled.clue (h.coupled.stage_iff.mpr ⟨h.unhalted, hp, hb⟩)
      simp [entersAnew, repeated, hg.1, hfor]
    rw [enterPhase_of_buzz (c := c.repeated) hb, enterWindow_of_keeps hkept]
  · rw [enterPhase_of_other (c := c.repeated) hb hd (h.upToDate.unbroken h.unhalted hp), hkeep]

end InOrder

/-- **The same snapshot once more**: nothing is asked for, and the client is the same but for
the count of its snapshots, the buzz that may go out again, and what its countdown knows of
the pause. -/
theorem update_repeated (h : c.InOrder) (hg : c.latest.game.Unhinted)
    (hids : (c.latest.game.players.map (·.id)).Nodup) :
    c.update c.latest.game c.latest.player none
      = (c.repeated, ⟨none, none, c.disputePrompt⟩, []) := by
  have happlied := applied_repeated hids fun hp => (h.resting hp).idle
  cases hp : c.latest.game.paused with
  | true =>
    have hrest : c.repeated.Resting :=
      ⟨(h.resting hp).idle, (h.resting hp).unowned, (h.resting hp).closed⟩
    have hnone : c.repeated.disputePrompt = false := by
      rw [repeated, h.disputePrompt_eq, hp]
      rfl
    have hquiet : (⟨none, none, c.disputePrompt⟩ : Outcome) = .quiet := congrArg _ hnone
    rw [update_of_paused hp, happlied, stopTimers_of_resting hrest h.tidy, hquiet]
    exact congrArg (·, Outcome.quiet, []) (prompting_same hnone)
  | false =>
    rw [update_of_running hp, happlied, h.settle_repeated, h.enterPhase_repeated hg hp]
    rfl

end repeated

/-! ### In every run -/

/-- In a run a client whose session goes on is in order. -/
theorem inOrder_run (settings : Settings) (es : List Event)
    (hh : ((fresh settings).run es).1.halted = false) : ((fresh settings).run es).1.InOrder where
  unhalted := hh
  upToDate := UpToDate.run settings es
  owned := owned_run settings es
  coupled := coupled_run settings es
  tidy := tidy_run settings es
  prompted := prompted_run settings es

/-- A view once the snapshot came once more differs in nothing but the buzz. -/
theorem view_repeated (c : Client) :
    c.repeated.view =
      { c.view with permissions := { c.permissions with buzz := c.repeated.permissions.buzz } } :=
  rfl

/-- **Once more the snapshot it has.**  In every run, and at whatever moment, a client that is
not halted takes the snapshot that it has already, when this starts nothing and tells its
players apart, and no alarm is set, no message shown and no other place gone to; the countdown,
the buzz window, the score changes, the message and the place stay as they are; and of what is
shown only the buzz may change, since one that went out is forgotten. -/
theorem repetition_disturbs_nothing (settings : Settings) (es : List Event)
    (hh : ((fresh settings).run es).1.halted = false)
    (hg : ((fresh settings).run es).1.latest.game.Unhinted)
    (hids : (((fresh settings).run es).1.latest.game.players.map (·.id)).Nodup) :
    let c := ((fresh settings).run es).1
    let again := Inbound.update c.latest.game c.latest.player none
    let d := (c.take again).1
    (c.take again).2.2 = [] ∧
    (c.take again).2.1.advisory = none ∧ (c.take again).2.1.navigate = none ∧
    (d.countdown.remaining = c.countdown.remaining ∧
      d.countdown.isRunning = c.countdown.isRunning ∧
      d.countdown.generation = c.countdown.generation ∧ d.owner = c.owner) ∧
    d.window = c.window ∧ d.changes = c.changes ∧
    d.advisory = c.advisory ∧ d.advisoryGeneration = c.advisoryGeneration ∧
    d.navigation = c.navigation ∧ d.disputePrompt = c.disputePrompt ∧ d.buzzSpent = false ∧
    d.view = { c.view with permissions := { c.permissions with buzz := d.permissions.buzz } } ∧
    (c.buzzSpent = false → d.view = c.view) ∧
    ∀ text, Inbound.ofText text = .ok again → c.receive text = c.take again := by
  intro c again d
  have heq : c.take again = (c.repeated, ⟨none, none, c.disputePrompt⟩, []) :=
    update_repeated (inOrder_run settings es hh) hg hids
  have hd : d = c.repeated := congrArg (·.1) heq
  rw [heq, hd]
  refine ⟨rfl, rfl, rfl, ⟨rfl, rfl, rfl, rfl⟩, rfl, rfl, rfl, rfl, rfl, rfl, rfl, view_repeated c,
    fun hunspent => ?_, fun text htext => (receive_of_ok hh htext).trans heq⟩
  have hbuzz : c.repeated.permissions.buzz = c.permissions.buzz := by
    rw [permissions, permissions, hunspent]
    rfl
  rw [view_repeated, hbuzz]
  rfl

/-- A frame that opens a clue between two players, of whom one has a score. -/
def duelFrame (score : Int) : String :=
  s!"\x7b\"code\":200,\"game\":\x7b\"state\":3,\"round\":0,\"players\":["
    ++ s!"\x7b\"id\":\"a\",\"score\":{score}\x7d,\x7b\"id\":\"b\"\x7d]\x7d,"
    ++ "\"curPlayer\":\x7b\"id\":\"a\",\"canBuzz\":true\x7d\x7d"

/-- While the countdown ticks and a score change is shown, the snapshot comes once more: both
stay, and a buzz that went out may go out again. -/
theorem buzz_again_after_repetition :
    let es : List Event := [.frame (duelFrame 0), .frame (duelFrame 200), .alarm ⟨.reading, 1⟩,
      .action (.buzz false)]
    let c := ((fresh .default).run es).1
    let d := (c.take (.update c.latest.game c.latest.player none)).1
    (c.countdown.isRunning = true ∧ d.countdown.isRunning = true) ∧
      (c.changes.entries = [("a", 200)] ∧ d.changes = c.changes) ∧
      c.buzzSpent = true ∧ d.buzzSpent = false := by
  intro es
  obtain ⟨hh, hg, hids, hruns, hmoved, hspent⟩ :
      ((fresh .default).run es).1.halted = false ∧
      ((fresh .default).run es).1.latest.game.Unhinted ∧
      (((fresh .default).run es).1.latest.game.players.map (·.id)).Nodup ∧
      ((fresh .default).run es).1.countdown.isRunning = true ∧
      ((fresh .default).run es).1.changes.entries = [("a", 200)] ∧
      ((fresh .default).run es).1.buzzSpent = true := by decide +kernel
  obtain ⟨-, -, -, ⟨-, hrunning, -⟩, -, hchanges, -, -, -, -, hbuzz, -⟩ :=
    repetition_disturbs_nothing .default es hh hg hids
  exact ⟨⟨hruns, hrunning.trans hruns⟩, ⟨hmoved, hchanges⟩, hspent, hbuzz⟩

end Client

end QuizClient
