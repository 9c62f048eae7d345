import QuizClient.Proofs.Pausing
import QuizClient.Proofs.Reports
import QuizClient.Proofs.Repetition
import QuizClient.Proofs.ScoreHistory

/-!
# Leaving the game

The player leaves the game, or the server refuses the session.  Either way the client forgets
the game, part by part, and some parts it does not forget: generations go on, a pause keeps its
mark on the countdown, a halt lasts.  None of this can be seen.  A client that has forgotten
its game shows what a new one shows, but for the message, the destination and the halt; it
stays so until the next snapshot, and of that it makes what a new client makes.

## Main definitions

* `Client.Exits` — an event with which the client leaves the game, and the message it leaves.
* `Client.Vacant` — a client that holds nothing of any game.

## Main results

* `Vacant.view_eq` — what a vacant client shows.
* `Vacant.run` — a vacant client stays vacant until a snapshot comes.
* `Vacant.update` — vacant clients make the same of a snapshot.
* `leaving_keeps_nothing` — **leaving keeps nothing of the game.**
-/

namespace QuizClient

namespace Client

/-- An event with which a client leaves the game for the lobby, with the message shown then:
the player leaves, or the server refuses the session. -/
inductive Exits (c : Client) : Event → Option Advisory → Prop
  /-- The player leaves. -/
  | left : Exits c .leave none
  /-- The server refuses the session. -/
  | refused {text : String} {code : Int64} {message : String} (hh : c.halted = false)
      (hi : Inbound.ofText text = .ok (.failure .unauthorized code message)) :
      Exits c (.frame text) (some ⟨.unauthorized, message⟩)

/-- What is left of a client: the message and the destination, what it never forgets, and the
generations. -/
theorem Exits.step_eq {c : Client} {e : Event} {shown : Option Advisory} (h : c.Exits e shown) :
    (c.step e).1 =
      { c.discard with
        navigation := some .lobby
        advisory := shown
        advisoryGeneration := c.advisoryGeneration + 1 } ∧
    (c.step e).2.2 = [] := by
  cases h with
  | left => exact ⟨rfl, rfl⟩
  | refused hh hi =>
    rw [step_frame, receive_of_ok hh hi]
    exact ⟨rfl, rfl⟩

/-- No message that is left passes by itself. -/
theorem Exits.lasting {c : Client} {e : Event} {shown : Option Advisory} (h : c.Exits e shown) :
    shown.any (·.kind.isPassing) = false := by
  cases h <;> rfl

/-! ### Nothing of any game -/

/-- A client holds nothing of any game: no timer, no snapshot, no score change and no vote. -/
structure Vacant (c : Client) : Prop extends Resting c where
  /-- There is no game. -/
  game : c.latest.game = .blank
  /-- There is no player. -/
  player : c.latest.player = .blank
  /-- No score change is shown. -/
  unmoved : c.changes.entries = []
  /-- No vote is asked for. -/
  unprompted : c.disputePrompt = false

theorem vacant_fresh (settings : Settings) : (fresh settings).Vacant :=
  ⟨⟨rfl, rfl, rfl⟩, rfl, rfl, rfl, rfl⟩

theorem vacant_discard (c : Client) : c.discard.Vacant := ⟨⟨rfl, rfl, rfl⟩, rfl, rfl, rfl, rfl⟩

/-- Clients that hold the same of a game show the same, but for the message and the
destination. -/
theorem view_of_same {c d : Client} (hg : c.latest.game = d.latest.game)
    (hp : c.latest.player = d.latest.player) (hh : c.halted = d.halted)
    (hd : c.disputePrompt = d.disputePrompt) (hk : c.countdown.remaining = d.countdown.remaining)
    (hw : c.window.status = d.window.status) (hb : c.buzzSpent = d.buzzSpent)
    (he : c.changes.entries = d.changes.entries) :
    c.view = { d.view with advisory := c.advisory, navigate := c.navigation } := by
  have hphase : c.latest.phase = d.latest.phase := congrArg Game.phase hg
  have hround : c.latest.round = d.latest.round := congrArg Game.round hg
  have hblocked : c.window.isBlocked = d.window.isBlocked :=
    congrArg (· == BuzzStatus.blocked) hw
  have hpermissions : c.permissions = d.permissions := by
    simp only [permissions, Latest.permissions, Latest.playsIn, hg, hp, hh, hphase, hblocked, hb]
  simp only [view, phase, hg, hh, hd, hk, hw, he, hphase, hround, hpermissions]

namespace Vacant

variable {c d : Client}

/-- Vacancy is about the timers, the snapshots, the score changes and the vote. -/
theorem congr (h : c.Vacant) (hk : d.countdown = c.countdown) (ho : d.owner = c.owner)
    (hw : d.window = c.window) (hl : d.latest = c.latest)
    (he : d.changes = c.changes) (hd : d.disputePrompt = c.disputePrompt) : d.Vacant where
  toResting := h.toResting.congr hk ho hw
  game := by rw [hl, h.game]
  player := by rw [hl, h.player]
  unmoved := by rw [he, h.unmoved]
  unprompted := by rw [hd, h.unprompted]

/-- **What a vacant client shows** is what a new one shows, but for the message, the
destination and the halt. -/
theorem view_eq (h : c.Vacant) (settings : Settings) :
    c.view =
      { (fresh settings).view with
        advisory := c.advisory
        navigate := c.navigation
        halted := c.halted
        phase := if c.halted then .error else .preGame } := by
  have hphase : c.latest.phase = .preGame := congrArg Game.phase h.game
  have hround : c.latest.round = (fresh settings).latest.round := congrArg Game.round h.game
  have hpermissions : c.permissions = (fresh settings).permissions := by
    simp [permissions, Latest.permissions, h.player, fresh, Latest.fresh, Player.blank]
  simp only [view, phase, h.remaining_eq, h.status_eq, h.unmoved, h.unprompted, h.game, hphase,
    hround, hpermissions]
  rfl

/-- Of a vacant client whose message lasts no timeline expects an alarm. -/
theorem not_due (h : c.Vacant) (hlasting : c.advisory.any (·.kind.isPassing) = false)
    (a : Alarm) : (c.position a.timeline).standing ≠ .due a.generation := by
  obtain ⟨t, n⟩ := a
  cases t with
  | countdown => simp [h.idle]
  | reading => simp [h.closed]
  | scores => simp [h.unmoved]
  | advisory => simp [hlasting]

/-! ### Until the next snapshot -/

theorem receive (h : c.Vacant) {text : String} (hnone : c.snapshot? (.frame text) = none) :
    (c.receive text).1.Vacant := by
  cases received c text with
  | ignored hr =>
    rw [hr]
    exact h
  | shown a hr =>
    rw [hr]
    exact h.congr rfl rfl rfl rfl rfl rfl
  | rejected a hr =>
    rw [hr]
    exact h.congr rfl rfl rfl rfl rfl rfl
  | unauthorized a hr =>
    rw [hr]
    exact (vacant_discard c).congr rfl rfl rfl rfl rfl rfl
  | distrusted e hr =>
    rw [hr]
    exact ⟨⟨rfl, rfl, rfl⟩, h.game, h.player, h.unmoved, rfl⟩
  | updated g p advisory hh hi hr =>
    simp [snapshot?, hh, hi] at hnone

/-- All that an alarm can do to a vacant client is to remove the message. -/
theorem alarm (h : c.Vacant) (a : Alarm) : (c.alarm a).1.Vacant := by
  by_cases hdue : (c.position a.timeline).standing = .due a.generation
  · obtain ⟨t, n⟩ := a
    cases t with
    | countdown => simp [h.idle] at hdue
    | reading => simp [h.closed] at hdue
    | scores => simp [h.unmoved] at hdue
    | advisory =>
      rw [alarm_advisory_of_due ((advisory_due_iff c n).mp hdue)]
      exact h.congr rfl rfl rfl rfl rfl rfl
  · rw [alarm_eq_of_not_due hdue]
    exact h

/-- **Every event that brings no snapshot leaves a vacant client vacant.** -/
theorem step (h : c.Vacant) {e : Event} (hnone : c.snapshot? e = none) : (c.step e).1.Vacant := by
  cases e with
  | frame text => exact h.receive hnone
  | alarm a => exact h.alarm a
  | action a =>
    obtain ⟨b, hb, -⟩ := step_action_frame c a
    rw [hb]
    exact h.congr rfl rfl rfl rfl rfl rfl
  | refused r => exact h.congr rfl rfl rfl rfl rfl rfl
  | leave => exact (vacant_discard c).congr rfl rfl rfl rfl rfl rfl
  | reset => exact ⟨⟨rfl, rfl, rfl⟩, rfl, rfl, rfl, rfl⟩

/-- A vacant client stays vacant until a snapshot comes. -/
theorem run (h : c.Vacant) {es : List Event} (hes : c.snapshots es = []) :
    (c.run es).1.Vacant := by
  induction es generalizing c with
  | nil => exact h
  | cons e es ih =>
    obtain ⟨hnone, hrest⟩ := List.append_eq_nil_iff.mp hes
    exact ih (h.step (Option.toList_eq_nil_iff.mp hnone)) hrest

/-! ### The next snapshot -/

/-- The first snapshot shows no score change. -/
theorem update_changes (h : c.Vacant) (g : Game) (p : Player) (advisory : Option String) :
    (c.update g p advisory).1.changes.entries = [] := by
  have hplayers : c.latest.game.players = [] := by
    rw [h.game]
    rfl
  have hnone : scoreChanges c.latest.game.players g.players = [] := by
    rw [hplayers, scoreChanges_nil]
  rw [Client.update_changes]
  show (c.changes.observe c.latest.game.players g.players).1.entries = []
  rw [ScoreChanges.observe_of_same hnone, h.unmoved]

/-- **Vacant clients make the same of a snapshot**, if their settings agree: they show the
same, but for the message and the destination, and ask for the same timers. -/
theorem update (hc : c.Vacant) (hd : d.Vacant) (hs : c.settings = d.settings)
    (hh : c.halted = d.halted) (g : Game) (p : Player) (advisory : Option String) :
    let r := c.update g p advisory
    let s := d.update g p advisory
    r.2.1 = s.2.1 ∧ timersAsked r.2.2 = timersAsked s.2.2 ∧
      r.1.view = { s.1.view with advisory := r.1.advisory, navigate := r.1.navigation } := by
  have htimers : SameTimers ((c.update g p advisory).1, (c.update g p advisory).2.2)
      ((d.update g p advisory).1, (d.update g p advisory).2.2) := by
    cases hp : g.paused with
    | true =>
      obtain ⟨hcrest, hcasked⟩ := Resting.of_paused c hp p advisory
      obtain ⟨hdrest, hdasked⟩ := Resting.of_paused d hp p advisory
      exact hcrest.same hdrest hcasked hdasked
    | false => exact hc.toResting.resume hd.toResting hs hh hp p advisory
  refine ⟨by rw [update_outcome, update_outcome], htimers.asked, ?_⟩
  refine view_of_same ?_ ?_ ?_ ?_ htimers.shown htimers.status ?_ ?_
  · rw [update_latest, update_latest]
    rfl
  · rw [update_latest, update_latest]
    rfl
  · rw [update_halted, update_halted, hh]
  · rw [update_disputePrompt, update_disputePrompt]
  · rw [update_buzzSpent, update_buzzSpent]
  · rw [hc.update_changes, hd.update_changes]

end Vacant

/-! ### The main result -/

/-- **Leaving keeps nothing of the game**, in every run.  When the player leaves, or the server
refuses a session that goes on, the client shows what a new one shows, but for the destination
and the message that goes with it, and but for a halt, which lasts.  No alarm is asked for, no
alarm does anything then, and the alarms asked for before never do anything again; nor does any
alarm ever remove a message that the session is refused.  Until the next snapshot the message,
the destination and the halt are all that can be told from a new client, and of that snapshot
the client makes what a new one makes: the same outcome, the same timers and the same view, in
which no score changed, but for the message and the destination. -/
theorem leaving_keeps_nothing (settings : Settings) (es : List Event) {e : Event}
    {shown : Option Advisory} (he : ((fresh settings).run es).1.Exits e shown) :
    let c := ((fresh settings).run es).1
    let d := (c.step e).1
    d.view =
      { (fresh settings).view with
        advisory := shown
        navigate := some .lobby
        halted := c.halted
        phase := if c.halted then .error else .preGame } ∧
    ((c.step e).2.2 = [] ∧ ∀ a, d.alarm a = (d, false, [])) ∧
    (∀ w ∈ ((fresh settings).run es).2, ∀ later,
      (d.run later).1.alarm w.alarm = ((d.run later).1, false, [])) ∧
    (∀ later message, (d.run later).1.view.advisory = some ⟨.unauthorized, message⟩ →
      ∀ a, ((d.run later).1.alarm a).1.view.advisory = some ⟨.unauthorized, message⟩) ∧
    ∀ mid, d.snapshots mid = [] →
      let b := (d.run mid).1
      b.view =
        { (fresh settings).view with
          advisory := b.advisory
          navigate := b.navigation
          halted := b.halted
          phase := if b.halted then .error else .preGame } ∧
      (b.halted = false → ∀ g p advisory,
        let r := b.take (.update g p advisory)
        let n := (fresh settings).take (.update g p advisory)
        r.2.1 = n.2.1 ∧ timersAsked r.2.2 = timersAsked n.2.2 ∧ r.1.view.changes = [] ∧
        r.1.view = { n.1.view with advisory := r.1.advisory, navigate := r.1.navigation }) := by
  intro c d
  obtain ⟨hstep, hasked⟩ := he.step_eq
  have hd : d = { c.discard with
      navigation := some .lobby
      advisory := shown
      advisoryGeneration := c.advisoryGeneration + 1 } := hstep
  have hvacant : d.Vacant := hd ▸ (vacant_discard c).congr rfl rfl rfl rfl rfl rfl
  have hlasting : d.advisory.any (·.kind.isPassing) = false := hd ▸ he.lasting
  have haccounted : Accounted d _ := accounted_step (accounted_run settings es) e
  refine ⟨?_, ⟨hasked, fun a => alarm_eq_of_not_due (hvacant.not_due hlasting a)⟩, ?_, ?_, ?_⟩
  · have hview := hvacant.view_eq settings
    have hadvisory : d.advisory = shown := by rw [hd]
    have hnavigation : d.navigation = some .lobby := by rw [hd]
    have hhalted : d.halted = c.halted := by
      rw [hd]
      rfl
    rwa [hadvisory, hnavigation, hhalted] at hview
  · intro w hw later
    have hstale : Stale d w.alarm :=
      ⟨(haccounted w.alarm.timeline).2 _ (mem_asked (List.mem_append_left _ hw)),
        hvacant.not_due hlasting w.alarm⟩
    exact (stale_run hstale later).alarm_eq
  · intro later message hshown a
    have hstays : ¬ ((d.run later).1.advisory.any (·.kind.isPassing) = true ∧
        a = ⟨.advisory, (d.run later).1.advisoryGeneration⟩) := by
      have hadvisory : (d.run later).1.advisory = some ⟨.unauthorized, message⟩ := hshown
      rw [hadvisory]
      rintro ⟨⟨⟩, -⟩
    exact (alarm_advisory _ a).2.trans ((if_neg hstays).trans hshown)
  · intro mid hmid b
    have hb : b.Vacant := hvacant.run hmid
    have hsettings : b.settings = settings := by
      have hrun := settings_run settings (es ++ e :: mid)
      rwa [run_append, run_cons] at hrun
    refine ⟨hb.view_eq settings, fun hh g p advisory => ?_⟩
    obtain ⟨houtcome, htimers, hview⟩ :=
      hb.update (vacant_fresh settings) hsettings hh g p advisory
    exact ⟨houtcome, htimers, hb.update_changes g p advisory, hview⟩

/-- A frame that refuses the session. -/
def expiredFrame : String := "\x7b\"code\":4401,\"message\":\"session expired\"\x7d"

theorem ofText_expiredFrame :
    Inbound.ofText expiredFrame = .ok (.failure .unauthorized 4401 "session expired") := by
  decide +kernel

/-- A session is refused in a pause, while score changes are shown.  The mark of the pause stays
on the countdown and cannot be seen: the next clue is read as if the client were new. -/
theorem refused_in_pause :
    let es : List Event := [.frame (duelFrame 0), .frame (duelFrame 200), .frame (pickFrame true)]
    let mid : List Event := [.alarm ⟨.scores, 1⟩, .frame rejectionFrame]
    let clue : Game := { Game.blank with phase := .buzz }
    let c := ((fresh .default).run es).1
    let d := (c.step (.frame expiredFrame)).1
    let r := (d.run mid).1.take (.update clue .blank none)
    (c.view.changes = [("a", 200)] ∧ d.countdown.paused = true) ∧
      d.view.changes = [] ∧ d.view.advisory = some ⟨.unauthorized, "session expired"⟩ ∧
      (d.run mid).1.view.advisory = some ⟨.rejected, "too late"⟩ ∧
      r.1.view.window = .blocked ∧ r.1.view.changes = [] := by
  intro es mid clue
  obtain ⟨hgoes, hbefore, hmid, hnow, hrejected⟩ :
      ((fresh .default).run es).1.halted = false ∧
      (((fresh .default).run es).1.view.changes = [("a", 200)] ∧
        (((fresh .default).run es).1.step (.frame expiredFrame)).1.countdown.paused = true) ∧
      (((fresh .default).run es).1.step (.frame expiredFrame)).1.snapshots mid = [] ∧
      ((((fresh .default).run es).1.step (.frame expiredFrame)).1.run mid).1.halted = false ∧
      ((((fresh .default).run es).1.step (.frame expiredFrame)).1.run mid).1.view.advisory
        = some ⟨.rejected, "too late"⟩ := by decide +kernel
  have hblocked : ((fresh .default).take (.update clue .blank none)).1.view.window = .blocked := by
    decide +kernel
  have hexit := Exits.refused hgoes ofText_expiredFrame
  obtain ⟨hview, -, -, -, hnext⟩ := leaving_keeps_nothing .default es hexit
  obtain ⟨-, hupdate⟩ := hnext mid hmid
  obtain ⟨-, -, hunmoved, hsame⟩ := hupdate hnow clue .blank none
  exact ⟨hbefore, congrArg View.changes hview, congrArg View.advisory hview, hrejected,
    (congrArg View.window hsame).trans hblocked, hunmoved⟩

end Client

end QuizClient
