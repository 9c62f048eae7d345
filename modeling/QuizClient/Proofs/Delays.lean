import QuizClient.Proofs.Renewal

/-!
# How long alarms take

Each timeline has one delay, which is settled by the client as an event leaves it: ticks
are a second apart, the reading time is the one of the open clue, and messages and score
changes stay for as long as the settings say.  No operation asks for an alarm after any
other delay.

## Main definitions

* `Client.delay` — after what time a timeline of a client wants its alarm.
* `Client.Timed` — alarms are wanted after the delays of their timelines.
* `Client.Rang` — what an alarm does.

## Main results

* `step_timed` — **every event asks for its alarms after the delays of their
  timelines.**
* `rang` — what an alarm does to a client.
-/

namespace QuizClient

namespace Client

/-- After what time a timeline of a client wants its alarm. -/
def delay (c : Client) : Timeline → Duration
  | .countdown => Countdown.tickInterval
  | .reading => c.settings.pace.delay c.latest.game.clue
  | .scores => c.changes.window
  | .advisory => c.settings.advisoryWindow

@[simp] theorem delay_countdown (c : Client) : c.delay .countdown = Countdown.tickInterval := rfl

/-- Alarms are wanted after the delays of their timelines. -/
def Timed (c : Client) (wakes : List Wake) : Prop :=
  ∀ w ∈ wakes, w.after = c.delay w.alarm.timeline

namespace Timed

variable {c c' : Client} {vs ws : List Wake}

theorem nil (c : Client) : c.Timed [] := nofun

theorem single {t : Timeline} (n : Nat) {d : Duration} (h : d = c.delay t) :
    c.Timed [t.wake n d] := by
  intro w hw
  rw [List.mem_singleton.mp hw]
  exact h

theorem append (hv : c.Timed vs) (hw : c.Timed ws) : c.Timed (vs ++ ws) := by
  intro w hmem
  rcases List.mem_append.mp hmem with h | h
  · exact hv w h
  · exact hw w h

/-- Delays are settled by the setup and the open clue. -/
theorem congr (h : c.Timed ws) (hs : c'.setup = c.setup)
    (hl : c'.latest.game.clue = c.latest.game.clue) : c'.Timed ws := by
  obtain ⟨hsettings, hwindow⟩ := Prod.mk.inj hs
  intro w hw
  rw [h w hw]
  cases w.alarm.timeline with
  | countdown => rfl
  | reading =>
    show c.settings.pace.delay _ = c'.settings.pace.delay _
    rw [hsettings, hl]
  | scores => exact hwindow.symm
  | advisory =>
    show c.settings.advisoryWindow = c'.settings.advisoryWindow
    rw [hsettings]

end Timed

/-! ### Operations -/

theorem surface_timed (c : Client) (a : Advisory) : c.Timed (c.surface a).2 := by
  unfold surface
  split
  · exact .single _ rfl
  · exact .nil c

theorem startCountdown_timed (c : Client) (p : Phase) (d : Duration) :
    c.Timed (c.startCountdown p d).2 := by
  by_cases h : c.countdown.paused = true ∨ d.roundUp = 0
  · rw [startCountdown_of_refused h]
    exact .nil c
  · obtain ⟨hp, hd⟩ : c.countdown.paused = false ∧ d.roundUp ≠ 0 := by simpa using h
    rw [startCountdown_of_accepted hp hd]
    exact .single _ rfl

theorem keepTime_timed (c : Client) : c.Timed c.keepTime.2 := by
  rcases keepTime_cases c with h | h | ⟨d, h⟩
  · rw [h]
    exact .nil c
  · rw [h]
    exact .nil c
  · rw [h]
    exact startCountdown_timed c c.latest.phase d

theorem enterWindow_timed (c : Client) : c.Timed c.enterWindow.2 := by
  cases hnew : c.entersAnew with
  | false =>
    rw [enterWindow_of_keeps hnew]
    exact .nil c
  | true =>
    cases hfirst : c.latest.game.firstAttempt with
    | true =>
      rw [enterWindow_of_first hnew hfirst]
      show c.Timed (c.window.enter c.latest.game c.settings.pace).2.2
      rw [BuzzWindow.enter, if_pos hfirst]
      exact .single _ rfl
    | false =>
      rw [enterWindow_of_later hnew hfirst]
      exact (startCountdown_timed c.entered .buzz c.buzzTime).congr rfl rfl

theorem halt_timed (c : Client) (e : ProtocolError) : c.Timed (c.halt e).2 :=
  (surface_timed _ e.advisory).congr rfl rfl

theorem enterPhase_timed (c : Client) (o : Outcome) : c.Timed (c.enterPhase o).2.2 := by
  unfold enterPhase
  cases c.latest.phase with
  | buzz => exact enterWindow_timed c
  | error => exact halt_timed c .errorPhase
  | _ => exact keepTime_timed c

theorem replace_timed (c : Client) (g : Game) (p : Player) :
    (c.replace g p).1.Timed (c.replace g p).2 := by
  unfold replace ScoreChanges.observe
  cases scoreChanges c.latest.game.players g.players with
  | nil => exact .nil _
  | cons e es => exact .single _ rfl

theorem setup_applied (c : Client) (g : Game) (p : Player) (advisory : Option String) :
    (c.applied g p advisory).1.setup = c.setup := by
  obtain ⟨a, n, h⟩ := applied_frame c g p advisory
  rw [h]
  simp only [setup, replace, window_observe]

theorem setup_settle (c : Client) : c.settle.setup = c.setup := by
  rw [settle_eq]
  rfl

theorem applied_timed (c : Client) (g : Game) (p : Player) (advisory : Option String) :
    (c.applied g p advisory).1.Timed (c.applied g p advisory).2.2 := by
  have hadvise : ∀ d : Client, d.Timed (d.adviseUpdate advisory).2.2 := by
    intro d
    cases advisory with
    | none => exact .nil d
    | some message => exact surface_timed d ⟨.info, message⟩
  obtain ⟨a, n, h⟩ := applied_frame c g p advisory
  refine Timed.congr ((replace_timed c g p).append (hadvise _)) ?_ ?_
  · rw [h]
    rfl
  · rw [h]

theorem update_timed (c : Client) (g : Game) (p : Player) (advisory : Option String) :
    (c.update g p advisory).1.Timed (c.update g p advisory).2.2 := by
  have hsetup : (c.update g p advisory).1.setup = (c.applied g p advisory).1.setup :=
    (setup_update c g p advisory).trans (setup_applied c g p advisory).symm
  have happly : (c.update g p advisory).1.Timed (c.applied g p advisory).2.2 :=
    (applied_timed c g p advisory).congr hsetup (by simp)
  cases hp : g.paused with
  | true =>
    rw [update_of_paused hp] at happly ⊢
    exact happly
  | false =>
    have hphase : (c.update g p advisory).1.Timed
        ((c.applied g p advisory).1.settle.enterPhase (c.applied g p advisory).2.1).2.2 :=
      (enterPhase_timed _ _).congr (hsetup.trans (setup_settle _).symm) (by simp)
    rw [update_of_running hp] at happly hphase ⊢
    exact happly.append hphase

theorem receive_timed (c : Client) (text : String) :
    (c.receive text).1.Timed (c.receive text).2.2 := by
  cases received c text with
  | ignored h =>
    rw [h]
    exact .nil c
  | shown a h =>
    rw [h]
    exact (surface_timed c a).congr rfl rfl
  | rejected a h =>
    rw [h]
    exact (surface_timed _ a).congr rfl rfl
  | unauthorized a h =>
    rw [h]
    exact (surface_timed _ a).congr rfl rfl
  | distrusted e h =>
    rw [h]
    exact (halt_timed c e).congr rfl rfl
  | updated g p advisory _ _ h =>
    rw [h]
    exact update_timed c g p advisory

/-! ### Alarms -/

/-- What an alarm does. -/
inductive Rang (c : Client) (a : Alarm) : Prop
  /-- It was not expected, and changes nothing. -/
  | stale (h : c.alarm a = (c, false, []))
  /-- One second of the countdown is over. -/
  | ticked (r n : Nat) (ha : a = ⟨.countdown, n⟩) (hr : c.countdown.display = .running r n)
      (h : c.alarm a =
        if r ≤ 1 then ({ c with countdown := { c.countdown with display := .expired } }, true, [])
        else ({ c with countdown := { c.countdown with display := .running (r - 1) n } }, true,
          [Countdown.tickWake n]))
  /-- The clue is read, and buzzing is open. -/
  | opened (n : Nat) (ha : a = ⟨.reading, n⟩) (hb : c.window.stage = .blocked n)
      (h : c.alarm a =
        let s := { c with window := { c.window with stage := .open } }.startCountdown .buzz
          c.buzzTime
        (s.1, true, s.2))
  /-- Score changes or a message disappear. -/
  | faded (s : ScoreChanges) (m : Option Advisory)
      (ht : a.timeline = .scores ∨ a.timeline = .advisory)
      (h : c.alarm a = ({ c with changes := s, advisory := m }, true, []))

/-- **What an alarm does**, and nothing else. -/
theorem rang (c : Client) (a : Alarm) : c.Rang a := by
  by_cases hdue : (c.position a.timeline).standing = .due a.generation
  · obtain ⟨t, n⟩ := a
    cases t with
    | countdown =>
      obtain ⟨r, hr⟩ := (countdown_due_iff c n).mp hdue
      refine .ticked r n rfl hr ?_
      by_cases hlast : r ≤ 1 <;> simp [alarm, Countdown.tick, hr, hlast]
    | reading =>
      have hb := (reading_due_iff c n).mp hdue
      exact .opened n rfl hb (alarm_reading_of_due hb)
    | scores =>
      exact .faded _ c.advisory (.inl rfl) (alarm_scores_of_due ((scores_due_iff c n).mp hdue))
    | advisory =>
      exact .faded c.changes none (.inr rfl)
        (alarm_advisory_of_due ((advisory_due_iff c n).mp hdue))
  · exact .stale (alarm_eq_of_not_due hdue)

/-- An alarm asks for the next tick at most. -/
theorem alarm_asks (c : Client) (a : Alarm) :
    (c.alarm a).2.2 = [] ∨ ∃ n, (c.alarm a).2.2 = [Countdown.tickWake n] := by
  cases rang c a with
  | stale h => exact .inl (by rw [h])
  | ticked r n _ _ h =>
    rw [h]
    split
    · exact .inl rfl
    · exact .inr ⟨n, rfl⟩
  | opened n _ _ h =>
    rw [h]
    unfold startCountdown
    split
    · next hs =>
      obtain ⟨-, -, hr⟩ := Countdown.start_eq_ok_iff.mp hs
      cases hr
      exact .inr ⟨_, rfl⟩
    · exact .inl rfl
  | faded s m _ h => exact .inl (by rw [h])

theorem alarm_timed (c : Client) (a : Alarm) : (c.alarm a).1.Timed (c.alarm a).2.2 := by
  rcases alarm_asks c a with h | ⟨n, h⟩
  · rw [h]
    exact .nil _
  · rw [h]
    exact .single _ rfl

/-- **Every event asks for its alarms after the delays of their timelines.** -/
theorem step_timed (c : Client) (e : Event) : (c.step e).1.Timed (c.step e).2.2 := by
  cases e with
  | frame text => exact receive_timed c text
  | alarm a => exact alarm_timed c a
  | action a =>
    obtain ⟨b, -, hw⟩ := step_action_frame c a
    rw [hw]
    exact .nil _
  | refused r => exact (surface_timed c ⟨.rejected, r.message⟩).congr rfl rfl
  | leave => exact .nil _
  | reset => exact .nil _

end Client

end QuizClient
