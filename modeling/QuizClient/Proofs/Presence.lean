import QuizClient.Proofs.Delays
import QuizClient.Proofs.Snapshots
import QuizClient.Proofs.Timing

/-!
# When a countdown is shown

A countdown that the rules call for can fail to be there in two ways: it is not started,
because its phase has one already, or its start is refused, because the game is paused or
there would be nothing to show.  Neither happens.  Accepted settings and the snapshots give
a second at least for everything; a snapshot that is not paused lifts the pause before it
starts anything, and a window that is there was entered by such a snapshot; and a countdown
is stopped only by what calls for none.

## Main definitions

* `Client.Calls` — the latest snapshot calls for a countdown.
* `Client.Served` — a countdown that is called for is shown.

## Main results

* `Served.update`, `served_step`, `served_run` — every event keeps what is called for on
  display.
* `countdown_as_called` — **a countdown is shown whenever the rules call for one, in every
  run.**
-/

namespace QuizClient

namespace Client

/-- The latest snapshot calls for a countdown: its phase asks for one, or buzzing is
open. -/
def Calls (c : Client) : Prop := c.timing.time? ≠ none ∨ c.window.stage = .open

/-- A countdown that is called for is shown, and nothing is in the way of the next. -/
structure Served (c : Client) : Prop extends Gives c where
  /-- A window that is there can start its countdown. -/
  ready : c.window.stage ≠ .closed → c.countdown.paused = false
  /-- While the session goes on and the game is not paused, what is called for is shown. -/
  owned : c.halted = false → c.latest.game.paused = false → c.Calls → c.owner ≠ none

/-! ### Starting -/

theorem startCountdown_owned {c : Client} {d : Duration} (hp : c.countdown.paused = false)
    (hd : d.roundUp ≠ 0) (p : Phase) : (c.startCountdown p d).1.owner = some p := by
  rw [startCountdown_of_accepted hp hd]

/-- A phase that asks for a countdown has one. -/
theorem keepTime_owned {c : Client} (hp : c.countdown.paused = false) (hg : c.Gives)
    (ht : c.timing.time? ≠ none) : c.keepTime.1.owner ≠ none := by
  obtain ⟨d, hd⟩ := Option.ne_none_iff_exists'.mp ht
  have hstarted : (c.startCountdown c.latest.phase d).1.owner ≠ none := by
    rw [startCountdown_owned hp (hg.time? hd)]
    nofun
  unfold keepTime
  cases hcase : c.timing with
  | stop =>
    rw [hcase] at hd
    cases hd
  | keep =>
    rw [hcase] at hd
    cases hd
  | ensure d' =>
    rw [hcase] at hd
    cases hd
    by_cases ho : c.owner = some c.latest.phase
    · simp only [if_pos ho]
      exact Option.ne_none_iff_exists'.mpr ⟨_, ho⟩
    · simp only [if_neg ho]
      exact hstarted
  | restart d' =>
    rw [hcase] at hd
    cases hd
    exact hstarted

/-- A window that is open has a countdown, if it had one when it is left as it is. -/
theorem enterWindow_owned {c : Client} (hp : c.countdown.paused = false) (hg : c.Gives)
    (hkept : c.window.stage = .open → c.owner ≠ none)
    (hopen : c.enterWindow.1.window.stage = .open) : c.enterWindow.1.owner ≠ none := by
  cases hnew : c.entersAnew with
  | false =>
    rw [enterWindow_of_keeps hnew] at hopen ⊢
    exact hkept hopen
  | true =>
    cases hfirst : c.latest.game.firstAttempt with
    | true =>
      rw [enterWindow_window, if_pos hnew, BuzzWindow.stage_enter, hfirst] at hopen
      cases hopen
    | false =>
      have hentered : c.entered.countdown.paused = false := hp
      rw [enterWindow_of_later hnew hfirst, startCountdown_owned hentered hg.buzzTime]
      nofun

/-- What a phase of play calls for is shown once it said what it asks. -/
theorem enterPhase_owned {c : Client} (hp : c.countdown.paused = false) (hg : c.Gives)
    (hkept : c.window.stage = .open → c.owner ≠ none) {o : Outcome}
    (hcalls : c.timing.time? ≠ none ∨
      c.latest.phase = .buzz ∧ (c.enterPhase o).1.window.stage = .open) :
    (c.enterPhase o).1.owner ≠ none := by
  rcases hcalls with htime | ⟨hb, hopen⟩
  · have htimed : c.latest.phase ∉ untimedPhases := by
      intro hmem
      rw [timing_of_untimed hmem] at htime
      exact htime rfl
    have hbuzz : c.latest.phase ≠ .buzz := by
      intro hb
      rw [timing_of_buzz hb] at htime
      exact htime rfl
    have hdispute : c.latest.phase ≠ .dispute := by
      intro hd
      exact htimed (by rw [hd]; decide)
    have herror : c.latest.phase ≠ .error := by
      intro he
      exact htimed (by rw [he]; decide)
    rw [enterPhase_of_other hbuzz hdispute herror]
    exact keepTime_owned hp hg htime
  · rw [enterPhase_of_buzz hb] at hopen ⊢
    exact enterWindow_owned hp hg hkept hopen

/-! ### What calls for none -/

/-- A client whose phase asks for nothing and that has no window is served. -/
theorem Served.of_quiet {c : Client} (hg : c.Gives) (ht : c.timing = .stop)
    (hw : c.window.stage = .closed) : c.Served := by
  refine ⟨hg, fun hne => absurd hw hne, fun _ _ hcalls => ?_⟩
  rcases hcalls with htime | hopen
  · rw [ht] at htime
    exact absurd rfl htime
  · rw [hw] at hopen
    cases hopen

/-- What is called for is settled by the setting, the snapshots, the halt and the window;
what is shown, by the owner. -/
theorem Served.congr {c d : Client} (h : c.Served) (hs : d.settings = c.settings)
    (hl : d.latest = c.latest) (hh : d.halted = c.halted) (hw : d.window = c.window)
    (ho : d.owner = c.owner) (hp : d.countdown.paused = c.countdown.paused) : d.Served := by
  refine ⟨h.toGives.congr hs hl, ?_, ?_⟩
  · rw [hw, hp]
    exact h.ready
  · unfold Calls
    rw [timing_congr hl hs hh, hh, hl, hw, ho]
    exact h.owned

/-! ### Snapshots -/

/-- Before the phase of play says anything, the pause is lifted. -/
theorem settle_unpaused (c : Client) {g : Game} (hp : g.paused = false) (p : Player)
    (advisory : Option String) :
    (c.applied g p advisory).1.settle.countdown.paused = false := by
  rw [settle_countdown, applied_countdown, hp]
  split <;> rfl

/-- A window that is still open by then keeps its countdown. -/
theorem settle_owned {c : Client} (h : c.Served) (hc : c.Coupled) (ho : c.Owned) (g : Game)
    (p : Player) (advisory : Option String)
    (hopen : (c.applied g p advisory).1.settle.window.stage = .open) :
    (c.applied g p advisory).1.settle.owner ≠ none := by
  rw [settle_window, applied_window] at hopen
  split at hopen
  · next hphase =>
    have hwindow : c.window.stage ≠ .closed := by
      rw [hopen]
      nofun
    obtain ⟨hh, hp, hbefore⟩ := hc.stage_iff.mp hwindow
    obtain ⟨q, hq⟩ := Option.ne_none_iff_exists'.mp (h.owned hh hp (.inr hopen))
    have hbuzz : q = .buzz := (ho.admitted q hq).phase.trans hbefore
    rw [settle_owner, hphase, applied_owner, hq, hbuzz]
    nofun
  · cases hopen

theorem Served.update {c : Client} (h : c.Served) (hc : c.Coupled) (ho : c.Owned)
    (hh : c.halted = false) {g : Game} (hg : g.GivesTime) (p : Player)
    (advisory : Option String) : (c.update g p advisory).1.Served := by
  have hgame : (c.update g p advisory).1.latest.game = g := by
    rw [update_latest]
    rfl
  have hgives : (c.update g p advisory).1.Gives := by
    refine ⟨?_, ?_⟩
    · rw [update_settings]
      exact h.limits
    · rw [hgame]
      exact hg
  have hcoupled := hc.update hh g p advisory
  refine ⟨hgives, fun hne => ?_, fun hhalted hp hcalls => ?_⟩
  · rw [update_paused, ← hgame]
    exact (hcoupled.stage_iff.mp hne).2.1
  · rw [hgame] at hp
    -- the phase of play asks for the same before it is entered as after it
    have htiming : (c.update g p advisory).1.timing
        = (c.applied g p advisory).1.settle.timing :=
      timing_congr (by simp) (by simp) (by simp [hhalted, hh])
    have hsgives : (c.applied g p advisory).1.settle.Gives :=
      hgives.congr (by simp) (by simp)
    have hscalls : (c.applied g p advisory).1.settle.timing.time? ≠ none ∨
        (c.applied g p advisory).1.settle.latest.phase = .buzz ∧
          (c.update g p advisory).1.window.stage = .open := by
      rcases hcalls with htime | hopen
      · exact .inl (htiming ▸ htime)
      · have hwindow : (c.update g p advisory).1.window.stage ≠ .closed := by
          rw [hopen]
          nofun
        exact .inr ⟨by simpa using (hcoupled.stage_iff.mp hwindow).2.2, hopen⟩
    rw [update_of_running hp] at hscalls ⊢
    exact enterPhase_owned (settle_unpaused c hp p advisory) hsgives
      (settle_owned h hc ho g p advisory) hscalls

/-! ### Alarms -/

theorem Served.alarm {c : Client} (h : c.Served) (a : Alarm) : (c.alarm a).1.Served := by
  cases rang c a with
  | stale heq =>
    rw [heq]
    exact h
  | ticked r n _ _ heq =>
    rw [heq]
    split
    · exact h.congr rfl rfl rfl rfl rfl rfl
    · exact h.congr rfl rfl rfl rfl rfl rfl
  | opened n _ hb heq =>
    -- the window was there, so nothing is in the way of its countdown
    let o : Client := { c with window := { c.window with stage := .open } }
    have hready : o.countdown.paused = false := h.ready (by rw [hb]; nofun)
    rw [heq]
    show (o.startCountdown .buzz c.buzzTime).1.Served
    rw [startCountdown_of_accepted hready h.buzzTime]
    exact ⟨h.toGives.congr rfl rfl, fun _ => hready, fun _ _ _ => nofun⟩
  | faded s m _ heq =>
    rw [heq]
    exact h.congr rfl rfl rfl rfl rfl rfl

/-! ### Events -/

/-- A client that forgot its game is served. -/
theorem Served.of_clear {c d : Client} (h : c.Served) (hs : d.settings = c.settings)
    (hl : d.latest = c.latest.clear) (hw : d.window.stage = .closed) : d.Served := by
  refine .of_quiet ⟨by rw [hs]; exact h.limits, ?_⟩ (timing_of_untimed ?_) hw
  · rw [hl]
    exact Game.givesTime_blank
  · rw [hl]
    show Phase.preGame ∈ untimedPhases
    decide

theorem Served.receive {c : Client} (h : c.Served) (hc : c.Coupled) (ho : c.Owned)
    {text : String} (hg : ∀ g ∈ c.snapshot? (.frame text), g.GivesTime) :
    (c.receive text).1.Served := by
  cases received c text with
  | ignored hr =>
    rw [hr]
    exact h
  | shown a hr =>
    rw [hr]
    exact h.congr rfl rfl rfl rfl rfl rfl
  | rejected a hr =>
    rw [hr]
    exact h.congr rfl rfl rfl rfl rfl rfl
  | unauthorized a hr =>
    rw [hr]
    exact h.of_clear rfl rfl rfl
  | distrusted e hr =>
    rw [hr]
    exact ⟨h.toGives.congr rfl rfl, fun hne => absurd rfl hne, nofun⟩
  | updated g p advisory hh hi hr =>
    rw [hr]
    exact h.update hc ho hh (hg g (by simp [snapshot?, hh, hi])) p advisory

/-- **Every event keeps what is called for on display**, as long as a snapshot that it brings
gives time for everything. -/
theorem served_step {c : Client} (h : c.Served) (hc : c.Coupled) (ho : c.Owned) {e : Event}
    (hg : ∀ g ∈ c.snapshot? e, g.GivesTime) : (c.step e).1.Served := by
  cases e with
  | frame text => exact h.receive hc ho hg
  | alarm a => exact h.alarm a
  | action a =>
    obtain ⟨b, hb, -⟩ := step_action_frame c a
    rw [hb]
    exact h.congr rfl rfl rfl rfl rfl rfl
  | refused r => exact h.congr rfl rfl rfl rfl rfl rfl
  | leave => exact h.of_clear rfl rfl rfl
  | reset => exact h.of_clear rfl rfl rfl

theorem Served.run {c : Client} (h : c.Served) (hc : c.Coupled) (ho : c.Owned)
    {es : List Event} (hg : ∀ g ∈ c.snapshots es, g.GivesTime) : (c.run es).1.Served := by
  induction es generalizing c with
  | nil => exact h
  | cons e es ih =>
    rw [snapshots_cons] at hg
    have hfirst : ∀ g ∈ c.snapshot? e, g.GivesTime := fun g hmem =>
      hg g (List.mem_append_left _ (Option.mem_toList.mpr hmem))
    exact ih (served_step h hc ho hfirst) (coupled_step hc e) (owned_step ho hc e)
      fun g hmem => hg g (List.mem_append_right _ hmem)

theorem served_run {settings : Settings} (hs : settings.Accepted) {es : List Event}
    (hg : ∀ g ∈ (fresh settings).snapshots es, g.GivesTime) :
    ((fresh settings).run es).1.Served :=
  Served.run (.of_quiet ⟨hs.second_le, Game.givesTime_blank⟩ rfl rfl) (.fresh settings)
    (owned_run settings []) hg

/-! ### The main result -/

/-- **A countdown is shown whenever the rules call for one**, in every run with accepted
settings in which no snapshot gives less than a second for anything.  While the session goes
on and the game is not paused, one is shown in the choice of a clue, and in an answer or a
wager outside the final round; in a vote when, and only when, the player has one, and in the
buzzing when, and only when, the window is open; and in an answer or a wager of the final
round when the snapshot says that the time starts.  In the other phases none is shown. -/
theorem countdown_as_called (settings : Settings) (es : List Event) (hs : settings.Accepted)
    (hg : ∀ g ∈ (fresh settings).snapshots es, g.GivesTime)
    (hh : ((fresh settings).run es).1.halted = false)
    (hp : ((fresh settings).run es).1.latest.game.paused = false) :
    let c := ((fresh settings).run es).1
    let shown := c.view.countdown ≠ none
    (c.latest.phase = .pick → shown) ∧
    (c.latest.phase = .answer ∨ c.latest.phase = .wager → c.latest.round ≠ .final → shown) ∧
    (c.latest.phase = .vote → (shown ↔ c.latest.player.mayVote = true)) ∧
    (c.latest.phase = .buzz → (shown ↔ c.view.window = .open)) ∧
    (∀ f : FinalStage, c.latest.phase = f.phase → c.latest.round = .final →
      f.hint c.latest.game = true → shown) ∧
    (c.latest.phase ∈ [.preGame, .boardIntro, .dispute, .postGame] → ¬ shown) := by
  intro c shown
  have hserved : c.Served := served_run hs hg
  have hown : c.Owned := owned_run settings es
  have hiff : shown ↔ c.owner ≠ none := by
    show c.countdown.remaining ≠ none ↔ _
    rw [Countdown.remaining_ne_none_iff, hown.shown_iff]
  have hcalls : c.Calls → shown := fun h => hiff.mpr (hserved.owned hh hp h)
  have hasks : ∀ {d}, c.timing.time? = some d → shown := fun hd =>
    hcalls (.inl (by rw [hd]; nofun))
  refine ⟨fun hphase => ?_, fun hphase hround => ?_, fun hphase => ⟨fun hshown => ?_, fun hv => ?_⟩,
    fun hphase => ⟨fun hshown => ?_, fun hopen => ?_⟩, fun f hphase hround hhint => ?_,
    fun hphase hshown => ?_⟩
  · exact hasks (by rw [timing_of_pick hphase]; rfl)
  · rcases hphase with hphase | hphase
    · exact hasks (by rw [timing_of_answer hphase hround]; rfl)
    · exact hasks (by rw [timing_of_wager hphase hround]; rfl)
  · obtain ⟨p, -, hadmits⟩ := hown.admits_of_shown hshown
    exact hadmits.vote (hadmits.phase.trans hphase)
  · have hvote : c.permissions.vote = true := by
      have hhalted : c.halted = false := hh
      have hpaused : c.latest.game.paused = false := hp
      simp [permissions, Latest.permissions, Latest.playsIn, hv, hphase, hhalted, hpaused]
    exact hasks (by rw [timing_of_vote hphase, hvote]; rfl)
  · obtain ⟨p, -, hadmits⟩ := hown.admits_of_shown hshown
    exact (BuzzWindow.status_eq_open_iff _).mpr (hadmits.window (hadmits.phase.trans hphase))
  · exact hcalls (.inr ((BuzzWindow.status_eq_open_iff _).mp hopen))
  · exact hasks (by rw [timing_final hround hphase, hhint]; rfl)
  · obtain ⟨p, -, hadmits⟩ := hown.admits_of_shown hshown
    have hapart : ∀ q ∈ timedPhases, q ∉ [Phase.preGame, .boardIntro, .dispute, .postGame] := by
      decide
    exact hapart p hadmits.timed (hadmits.phase ▸ hphase)

/-- A frame that gives a second for the choice of a clue. -/
def secondFrame : String :=
  "\x7b\"code\":200,\"game\":\x7b\"state\":2,\"round\":0,\"players\":[],\"pickTimeout\":1\x7d,"
    ++ "\"curPlayer\":\x7b\"id\":\"a\"\x7d\x7d"

/-- A countdown that came to zero is still shown, also when the snapshot is sent again. -/
theorem expired_countdown_shown :
    let es : List Event := [.frame secondFrame, .alarm ⟨.countdown, 1⟩, .frame secondFrame]
    ((fresh .default).run es).1.view.countdown ≠ none ∧
      ((fresh .default).run es).1.countdown.display = .expired := by
  intro es
  have hgives : ∀ g ∈ (fresh .default).snapshots es, g.GivesTime := by decide +kernel
  obtain ⟨hh, hp, hphase, hexpired⟩ : ((fresh .default).run es).1.halted = false ∧
      ((fresh .default).run es).1.latest.game.paused = false ∧
      ((fresh .default).run es).1.latest.phase = .pick ∧
      ((fresh .default).run es).1.countdown.display = .expired := by decide +kernel
  obtain ⟨hpick, -⟩ := countdown_as_called .default es (.inl rfl) hgives hh hp
  exact ⟨hpick hphase, hexpired⟩

end Client

end QuizClient
