import QuizClient.Proofs.Halting
import QuizClient.Proofs.Renewal

/-!
# Snapshots replace one another

A snapshot is the whole state of the game, so what a client was told before does not
show in what it makes of the next one.  Two clients with the same settings that take over
the same snapshot answer alike and show the same game, whatever happened to each of them
before; where they can still differ is in the timers, and only where the snapshot lets
a timer go on.

The timers are compared up to their generations: a client that was in use for longer is
further on with them, which nothing shows.

## Main definitions

* `Outcome.ofUpdate` — what a snapshot asks of whoever shows the game.
* `View.SameGame` — two views show the same game.
* `Client.Agrees` — two clients agree on all that a snapshot's timing depends on.
* `SameTimers` — two clients show the same timers and ask for the same alarms.

## Main results

* `update_outcome` — the outcome depends on the snapshot alone.
* `view_sameGame` — so does what is shown of the game.
* `keepTime_same`, `enterWindow_same`, `enterPhase_same` — what two clients that
  agree make of the timers.
* `snapshots_replace` — **all of this of any two runs.**
-/

namespace QuizClient

/-! ### What a snapshot asks for -/

/-- What a snapshot asks of whoever shows the game: its message, unless it halts the
session, and a vote on a challenged ruling in the phase for that. -/
def Outcome.ofUpdate (g : Game) (advisory : Option String) : Outcome where
  advisory :=
    if g.paused = false ∧ g.phase = .error then some ProtocolError.errorPhase.advisory
    else advisory.map (⟨.info, ·⟩)
  navigate := none
  disputePrompt := !g.paused && g.phase == .dispute

namespace Client

theorem applied_outcome (c : Client) (g : Game) (p : Player) (advisory : Option String) :
    (c.applied g p advisory).2.1 = ⟨advisory.map (⟨.info, ·⟩), none, false⟩ := by
  cases advisory <;> rfl

/-- **The outcome of a snapshot depends on the snapshot alone.** -/
theorem update_outcome (c : Client) (g : Game) (p : Player) (advisory : Option String) :
    (c.update g p advisory).2.1 = Outcome.ofUpdate g advisory := by
  cases hp : g.paused with
  | true =>
    rw [update_of_paused hp]
    show (c.applied g p advisory).2.1 = _
    simp [applied_outcome, Outcome.ofUpdate, hp]
  | false =>
    rw [update_of_running hp]
    have hphase : (c.applied g p advisory).1.settle.latest.phase = g.phase := by simp
    have ho := applied_outcome c g p advisory
    generalize (c.applied g p advisory).1.settle = s at hphase ⊢
    by_cases hb : s.latest.phase = .buzz
    · simp [enterPhase_of_buzz hb, ho, Outcome.ofUpdate, ← hphase, hb]
    by_cases hd : s.latest.phase = .dispute
    · simp [enterPhase_of_dispute hd, ho, Outcome.ofUpdate, hp, ← hphase, hd]
    by_cases he : s.latest.phase = .error
    · simp [enterPhase_of_error he, ho, Outcome.ofUpdate, hp, ← hphase, he, halt, surface]
    · simp [enterPhase_of_other hb hd he, ho, Outcome.ofUpdate, ← hphase, hd, he]

/-- A snapshot releases the buzz. -/
theorem update_buzzSpent (c : Client) (g : Game) (p : Player) (advisory : Option String) :
    (c.update g p advisory).1.buzzSpent = false := by
  obtain ⟨_, _, _, _, _, _, _, h⟩ := update_frame c g p advisory
  rw [h]
  rfl

end Client

/-! ### What is shown of the game -/

/-- Two views show the same game: all that a snapshot says and all that follows from it,
which leaves out the timers, the buzz, the score changes, the advisory and the
destination. -/
structure View.SameGame (v w : View) : Prop where
  /-- The phase of play. -/
  phase : v.phase = w.phase
  /-- The round of play. -/
  round : v.round = w.round
  /-- Whether play is interrupted. -/
  paused : v.paused = w.paused
  /-- Whether the session is halted. -/
  halted : v.halted = w.halted
  /-- Whether a vote on a challenged ruling is asked for. -/
  disputePrompt : v.disputePrompt = w.disputePrompt
  /-- Who leads. -/
  leaders : v.leaders = w.leaders
  /-- Who chooses. -/
  picking : v.picking = w.picking
  /-- Who answers. -/
  answering : v.answering = w.answering
  /-- Who wagers. -/
  wagering : v.wagering = w.wagering
  /-- Who answered last. -/
  lastAnswering : v.lastAnswering = w.lastAnswering
  /-- What they said. -/
  lastAnswer : v.lastAnswer = w.lastAnswer
  /-- Whether it was ruled right. -/
  lastCorrect : v.lastCorrect = w.lastCorrect
  /-- The answer whose ruling is challenged. -/
  disputed : v.disputed = w.disputed
  /-- What the player may do, the buzz apart. -/
  permissions : { v.permissions with buzz := false } = { w.permissions with buzz := false }

namespace Client

/-- Clients that hold the same snapshots show the same game. -/
theorem view_sameGame {c d : Client} (hg : c.latest.game = d.latest.game)
    (hp : c.latest.player = d.latest.player) (hh : c.halted = d.halted)
    (hd : c.disputePrompt = d.disputePrompt) : c.view.SameGame d.view := by
  have hphase : c.latest.phase = d.latest.phase := congrArg Game.phase hg
  have hround : c.latest.round = d.latest.round := congrArg Game.round hg
  have hplays : ∀ p, c.latest.playsIn c.halted p = d.latest.playsIn d.halted p := by
    intro p
    simp only [Latest.playsIn, hh, hg, hphase]
  constructor <;>
    simp only [view, phase, hh, hd, hg, hphase, hround]
  simp only [permissions, Latest.permissions, hp, hplays]

/-! ### The same timers -/

/-- Two clients agree on all that the timing of a snapshot depends on: the settings, the
snapshots, the halt and whether a countdown may start. -/
structure Agrees (c d : Client) : Prop where
  /-- The settings. -/
  settings : c.settings = d.settings
  /-- The game. -/
  game : c.latest.game = d.latest.game
  /-- The player. -/
  player : c.latest.player = d.latest.player
  /-- The halt. -/
  halted : c.halted = d.halted
  /-- Whether a countdown may start. -/
  paused : c.countdown.paused = d.countdown.paused

end Client

/-- Two clients show the same countdown, which the same phase owns, and the same buzz
window, and ask for the same alarms of these. -/
structure SameTimers (r s : Client × List Wake) : Prop where
  /-- The countdown shown. -/
  shown : r.1.countdown.remaining = s.1.countdown.remaining
  /-- Its owner. -/
  owner : r.1.owner = s.1.owner
  /-- The buzz window. -/
  status : r.1.window.status = s.1.window.status
  /-- The alarms. -/
  asked : timersAsked r.2 = timersAsked s.2

namespace Client

/-- Clients at rest that ask for no timer show the same timers. -/
theorem Resting.same {c d : Client} (hc : c.Resting) (hd : d.Resting) {vs ws : List Wake}
    (hv : timersAsked vs = []) (hw : timersAsked ws = []) : SameTimers (c, vs) (d, ws) where
  shown := hc.remaining_eq.trans hd.remaining_eq.symm
  owner := hc.unowned.trans hd.unowned.symm
  status := hc.status_eq.trans hd.status_eq.symm
  asked := hv.trans hw.symm

section Agrees

variable {c d : Client}

theorem Agrees.phase (h : c.Agrees d) : c.latest.phase = d.latest.phase :=
  congrArg Game.phase h.game

/-- Of clients that agree the phase of play asks the same. -/
theorem Agrees.timing (h : c.Agrees d) : c.timing = d.timing := by
  have hvote : c.permissions.vote = d.permissions.vote := by
    simp only [permissions, Latest.permissions, Latest.playsIn, h.player, h.halted, h.game, h.phase]
  unfold Client.timing
  rw [hvote, h.game, h.settings]

theorem Agrees.buzzTime (h : c.Agrees d) : c.buzzTime = d.buzzTime := by
  unfold Client.buzzTime
  rw [h.game, h.settings]

theorem startCountdown_same (h : c.Agrees d) (hs : SameTimers (c, []) (d, [])) (p : Phase)
    (t : Duration) : SameTimers (c.startCountdown p t) (d.startCountdown p t) := by
  by_cases hr : d.countdown.paused = true ∨ t.roundUp = 0
  · rw [startCountdown_of_refused hr, startCountdown_of_refused (h.paused ▸ hr)]
    exact hs
  · obtain ⟨hp, ht⟩ : d.countdown.paused = false ∧ t.roundUp ≠ 0 := by simpa using hr
    rw [startCountdown_of_accepted hp ht, startCountdown_of_accepted (h.paused.trans hp) ht]
    -- both start anew, in generations of their own that are not compared
    exact ⟨rfl, rfl, hs.status, rfl⟩

/-- Clients that agree and have the same timers do the same to the countdown. -/
theorem keepTime_same (h : c.Agrees d) (hs : SameTimers (c, []) (d, [])) :
    SameTimers c.keepTime d.keepTime := by
  have howner : c.owner = d.owner := hs.owner
  unfold keepTime
  rw [h.timing, h.phase, howner]
  cases d.timing with
  | stop => exact ⟨rfl, rfl, hs.status, rfl⟩
  | keep => exact hs
  | ensure t =>
    by_cases ho : d.owner = some d.latest.phase
    · simp only [ho, if_true]
      exact hs
    · simp only [ho, if_false]
      exact startCountdown_same h hs _ t
  | restart t => exact startCountdown_same h hs _ t

/-- A phase that has no countdown leaves none behind. -/
theorem keepTime_same_of_stop (h : c.Agrees d) (ht : d.timing = .stop)
    (hw : c.window.status = d.window.status) : SameTimers c.keepTime d.keepTime := by
  unfold keepTime
  rw [h.timing, ht]
  exact ⟨rfl, rfl, hw, rfl⟩

/-- Clients that agree and enter the buzz window enter the same one, whatever they had
before. -/
theorem enterWindow_same (h : c.Agrees d) (hc : c.entersAnew = true) (hd : d.entersAnew = true) :
    SameTimers c.enterWindow d.enterWindow := by
  have hstatus : c.entered.window.status = d.entered.window.status := by
    show (c.window.enter _ _).1.status = (d.window.enter _ _).1.status
    rw [BuzzWindow.status_enter, BuzzWindow.status_enter, h.game]
  cases hf : d.latest.game.firstAttempt with
  | true =>
    have hfc : c.latest.game.firstAttempt = true := by rw [h.game, hf]
    rw [enterWindow_of_first hc hfc, enterWindow_of_first hd hf]
    refine ⟨rfl, rfl, hstatus, ?_⟩
    rw [BuzzWindow.wakes_enter_of_first _ _ hfc, BuzzWindow.wakes_enter_of_first _ _ hf, h.game,
      h.settings]
    rfl
  | false =>
    rw [enterWindow_of_later hc (by rw [h.game, hf]), enterWindow_of_later hd hf, h.buzzTime]
    have hentered : c.entered.Agrees d.entered :=
      ⟨h.settings, h.game, h.player, h.halted, h.paused⟩
    exact startCountdown_same hentered ⟨rfl, rfl, hstatus, rfl⟩ _ _

/-- **What clients that agree make of the timers** when a snapshot comes that is not
paused. -/
theorem enterPhase_same (h : c.Agrees d)
    (hb : d.latest.phase = .buzz → c.entersAnew = true ∧ d.entersAnew = true)
    (hk : d.latest.phase ≠ .buzz → SameTimers c.keepTime d.keepTime) (o o' : Outcome) :
    SameTimers ((c.enterPhase o).1, (c.enterPhase o).2.2)
      ((d.enterPhase o').1, (d.enterPhase o').2.2) := by
  by_cases hbuzz : d.latest.phase = .buzz
  · rw [enterPhase_of_buzz hbuzz, enterPhase_of_buzz (h.phase.trans hbuzz)]
    exact enterWindow_same h (hb hbuzz).1 (hb hbuzz).2
  obtain ⟨hshown, howner, hstatus, hasked⟩ := hk hbuzz
  by_cases hdispute : d.latest.phase = .dispute
  · rw [enterPhase_of_dispute hdispute, enterPhase_of_dispute (h.phase.trans hdispute)]
    exact ⟨hshown, howner, hstatus, hasked⟩
  by_cases herror : d.latest.phase = .error
  · rw [enterPhase_of_error herror, enterPhase_of_error (h.phase.trans herror)]
    exact ⟨rfl, rfl, rfl, rfl⟩
  · rw [enterPhase_of_other hbuzz hdispute herror,
      enterPhase_of_other (by rwa [h.phase]) (by rwa [h.phase]) (by rwa [h.phase])]
    exact ⟨hshown, howner, hstatus, hasked⟩

/-- After a snapshot two clients with the same settings agree. -/
theorem settle_agrees (hs : c.settings = d.settings) (hh : c.halted = d.halted) {g : Game}
    (hp : g.paused = false) (p : Player) (advisory : Option String) :
    (c.applied g p advisory).1.settle.Agrees (d.applied g p advisory).1.settle := by
  -- settling may cancel a countdown, which leaves its pause flag alone
  have hpaused : ∀ e : Client, (e.applied g p advisory).1.settle.countdown.paused = false := by
    intro e
    simp only [settle_countdown, applied_countdown, hp, Countdown.setPaused_false]
    split <;> rfl
  refine ⟨by simp [hs], by simp, by simp [Latest.replace], by simp [hh], ?_⟩
  rw [hpaused, hpaused]

/-- What a snapshot that is not paused makes of the timers is what its phase makes of
them. -/
theorem update_same_of_enterPhase {g : Game} (hp : g.paused = false) {p : Player}
    {advisory : Option String}
    (h : ∀ o, SameTimers
      (((c.applied g p advisory).1.settle.enterPhase o).1,
        ((c.applied g p advisory).1.settle.enterPhase o).2.2)
      (((d.applied g p advisory).1.settle.enterPhase o).1,
        ((d.applied g p advisory).1.settle.enterPhase o).2.2)) :
    SameTimers ((c.update g p advisory).1, (c.update g p advisory).2.2)
      ((d.update g p advisory).1, (d.update g p advisory).2.2) := by
  have ho : (c.applied g p advisory).2.1 = (d.applied g p advisory).2.1 := by
    rw [applied_outcome, applied_outcome]
  rw [update_of_running hp, update_of_running hp, ho]
  obtain ⟨hshown, howner, hstatus, hasked⟩ := h (d.applied g p advisory).2.1
  refine ⟨hshown, howner, hstatus, ?_⟩
  simp only [timersAsked_append, timersAsked_applied, List.nil_append]
  exact hasked

/-- The phases in which no timer goes on. -/
def untimedPhases : List Phase := [.preGame, .boardIntro, .dispute, .postGame, .error]

theorem timing_of_untimed (h : c.latest.phase ∈ untimedPhases) : c.timing = .stop := by
  have hphase : c.latest.game.phase ∈ untimedPhases := h
  unfold timing
  cases hp : c.latest.game.phase <;> simp_all [untimedPhases]

/-- **A snapshot that lets no timer go on decides about the timers alone**: one that is
paused, one of a phase without a countdown, or one that starts a fresh buzz window. -/
theorem update_same (hs : c.settings = d.settings) (hh : c.halted = d.halted) {g : Game}
    (hg : g.paused = true ∨ g.phase ∈ untimedPhases ∨ g.phase = .buzz ∧ g.startsBuzz = true)
    (p : Player) (advisory : Option String) :
    SameTimers ((c.update g p advisory).1, (c.update g p advisory).2.2)
      ((d.update g p advisory).1, (d.update g p advisory).2.2) := by
  cases hp : g.paused with
  | true =>
    obtain ⟨hc, hcasked⟩ := Resting.of_paused c hp p advisory
    obtain ⟨hd, hdasked⟩ := Resting.of_paused d hp p advisory
    exact hc.same hd hcasked hdasked
  | false =>
    have hagrees := settle_agrees hs hh hp p advisory
    refine update_same_of_enterPhase hp fun o => enterPhase_same hagrees ?_ ?_ o o
    · intro hb
      have hphase : g.phase = .buzz := by simpa using hb
      have hstarts : g.startsBuzz = true := by simpa [hp, hphase, untimedPhases] using hg
      exact ⟨by simp [entersAnew, hstarts], by simp [entersAnew, hstarts]⟩
    · intro hb
      have hphase : g.phase ≠ .buzz := by simpa using hb
      have huntimed : g.phase ∈ untimedPhases := by simpa [hp, hphase] using hg
      refine keepTime_same_of_stop hagrees (timing_of_untimed (by simpa using huntimed)) ?_
      simp [hphase]

end Agrees

/-! ### The main result -/

theorem settings_run (settings : Settings) (es : List Event) :
    ((fresh settings).run es).1.settings = settings :=
  congrArg Prod.fst (setup_run (fresh settings) es)

/-- **Snapshots replace one another**, in any two runs.  Two clients with the same settings
whose sessions go on answer the same snapshot alike, hold exactly that snapshot after it
and show the same game; and where the snapshot lets no timer go on, they show the same
countdown, the same buzz window and the same leave to buzz as well. -/
theorem snapshots_replace (settings : Settings) (es fs : List Event)
    (hc : ((fresh settings).run es).1.halted = false)
    (hd : ((fresh settings).run fs).1.halted = false)
    (g : Game) (p : Player) (advisory : Option String) :
    let r := ((fresh settings).run es).1.take (.update g p advisory)
    let s := ((fresh settings).run fs).1.take (.update g p advisory)
    r.2.1 = s.2.1 ∧
    (r.1.latest.game = g ∧ r.1.latest.player = p) ∧
    (s.1.latest.game = g ∧ s.1.latest.player = p) ∧
    r.1.view.SameGame s.1.view ∧
    (g.paused = true ∨ g.phase ∈ untimedPhases ∨ g.phase = .buzz ∧ g.startsBuzz = true →
      r.1.view.countdown = s.1.view.countdown ∧ r.1.view.window = s.1.view.window ∧
        r.1.view.permissions.buzz = s.1.view.permissions.buzz) := by
  have hsettings := (settings_run settings es).trans (settings_run settings fs).symm
  have hhalted := hc.trans hd.symm
  generalize ((fresh settings).run es).1 = c at hc hsettings hhalted ⊢
  generalize ((fresh settings).run fs).1 = d at hd hsettings hhalted ⊢
  intro r s
  have hr : r = c.update g p advisory := rfl
  have hs : s = d.update g p advisory := rfl
  have hheld : ∀ e : Client, (e.update g p advisory).1.latest.game = g ∧
      (e.update g p advisory).1.latest.player = p := by
    intro e
    rw [update_latest]
    exact ⟨rfl, rfl⟩
  have hlater : r.1.halted = s.1.halted := by
    rw [hr, hs, update_halted, update_halted, hhalted]
  have hprompt : r.1.disputePrompt = s.1.disputePrompt := by
    rw [hr, hs, update_disputePrompt, update_disputePrompt]
  have hgame : r.1.latest.game = s.1.latest.game := (hheld c).1.trans (hheld d).1.symm
  have hplayer : r.1.latest.player = s.1.latest.player := (hheld c).2.trans (hheld d).2.symm
  refine ⟨?_, hheld c, hheld d, view_sameGame hgame hplayer hlater hprompt, fun hg => ?_⟩
  · rw [hr, hs, update_outcome, update_outcome]
  · obtain ⟨hshown, -, hstatus, -⟩ := update_same hsettings hhalted hg p advisory
    refine ⟨hshown, hstatus, ?_⟩
    -- the buzz is released in both, and the window is blocked in both or in none
    have hblocked : r.1.window.isBlocked = s.1.window.isBlocked :=
      congrArg (· == BuzzStatus.blocked) hstatus
    have hspent : r.1.buzzSpent = s.1.buzzSpent := by
      rw [hr, hs, update_buzzSpent, update_buzzSpent]
    have hphase : r.1.latest.phase = s.1.latest.phase := congrArg Game.phase hgame
    simp only [view, permissions, Latest.permissions, Latest.playsIn, hblocked, hspent, hlater,
      hgame, hplayer, hphase]

/-- A client in the middle of the countdown for a clue and one that was paused and then
left: a fresh buzz window is the same to both. -/
theorem replaced_by_buzzing :
    let es : List Event := [.frame (pickFrame false), .alarm ⟨.countdown, 1⟩]
    let fs : List Event := [.frame (pickFrame true), .leave]
    let g : Game := { Game.blank with phase := .buzz, startsBuzz := true }
    let r := ((fresh .default).run es).1.take (.update g .blank none)
    let s := ((fresh .default).run fs).1.take (.update g .blank none)
    ((fresh .default).run es).1.view.countdown = some 9 ∧
      ((fresh .default).run fs).1.view.countdown = none ∧
      r.2.1 = s.2.1 ∧ r.1.view.window = s.1.view.window ∧ s.1.view.window = .blocked := by
  intro es fs g
  have hshown : ((fresh .default).run es).1.view.countdown = some 9 := by decide +kernel
  have hleft : ((fresh .default).run fs).1.view.countdown = none := by decide +kernel
  have hblocked : (((fresh .default).run fs).1.take (.update g .blank none)).1.view.window =
      .blocked := by decide +kernel
  obtain ⟨hanswer, -, -, -, htimers⟩ := snapshots_replace .default es fs (by decide +kernel)
    (by decide +kernel) g .blank none
  obtain ⟨-, hwindow, -⟩ := htimers (.inr (.inr ⟨rfl, rfl⟩))
  refine ⟨?_, ?_, ?_, ?_, ?_⟩
  · exact hshown
  · exact hleft
  · exact hanswer
  · exact hwindow
  · exact hblocked

end Client

end QuizClient
