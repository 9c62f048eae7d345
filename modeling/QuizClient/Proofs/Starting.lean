import QuizClient.Proofs.Opening
import QuizClient.Proofs.Presence

/-!
# Starting a countdown

A start that is refused leaves no trace in the client, so the starts of a countdown are not
to be read off what an event leaves.  Here everything a client does is given once more, with
the way to start a countdown as a parameter.  A starter may have effects of its own: it may
put the start on record, or fail.  With the client's own starter nothing changes, and with
any other one an event starts a countdown once at most, when nothing is in its way, of the
time that the snapshot it leaves asks for; and what the event leaves of the countdown is what
that start leaves.

## Main definitions

* `Starter` — a way to start a countdown, with effects of its own.
* `Client.stepBy`, `Client.runBy` — an event and a run, by a starter.
* `Client.LeadsTo` — a start on the way from one client to another.
* `Client.StartsOnce` — a computation that starts a countdown once at most.

## Main results

* `startsOnce_step` — **an event starts a countdown once at most**, and which one.
-/

namespace QuizClient

/-- A way to start a countdown of a phase, with effects of its own. -/
abbrev Starter (m : Type → Type) := Client → Phase → Duration → m (Client × List Wake)

namespace Client

/-! ### What a client does, by a starter -/

section By

variable {m : Type → Type} [Monad m] (start : Starter m)

/-- Does to the countdown what the phase of play asks. -/
def keepTimeBy (c : Client) : m (Client × List Wake) :=
  let phase := c.latest.phase
  match c.timing with
  | .stop => pure (c.cancelCountdown, [])
  | .keep => pure (c, [])
  | .ensure d => if c.owner = some phase then pure (c, []) else start c phase d
  | .restart d => start c phase d

/-- Opens the buzz window of the open clue, unless it is open already and the snapshot does
not ask for a fresh one. -/
def enterWindowBy (c : Client) : m (Client × List Wake) :=
  let g := c.latest.game
  if !g.startsBuzz && c.window.isFor g.clue then pure (c, [])
  else
    let (window, delay, wakes) := c.window.enter g c.settings.pace
    let c := { c.cancelCountdown with window := window }
    match delay with
    | some _ => pure (c, wakes)
    | none => do
      let (c, more) ← start c .buzz c.buzzTime
      pure (c, wakes ++ more)

/-- Does what the phase of play asks, after a snapshot that is not paused. -/
def enterPhaseBy (c : Client) (o : Outcome) : m (Client × Outcome × List Wake) :=
  match c.latest.phase with
  | .buzz => do
    let (c, wakes) ← c.enterWindowBy start
    pure (c, o, wakes)
  | .dispute => do
    let (c, wakes) ← c.keepTimeBy start
    pure ({ c with disputePrompt := true }, { o with disputePrompt := true }, wakes)
  | .error =>
    let (c, wakes) := c.halt .errorPhase
    pure (c, { o with advisory := c.advisory }, wakes)
  | _ => do
    let (c, wakes) ← c.keepTimeBy start
    pure (c, o, wakes)

/-- Takes over a snapshot. -/
def updateBy (c : Client) (game : Game) (player : Player) (advisory : Option String) :
    m (Client × Outcome × List Wake) :=
  let (c, scoreWakes) := c.replace game player
  let (c, o, adviseWakes) := c.adviseUpdate advisory
  let c := { c with countdown := c.countdown.setPaused game.paused }
  if game.paused then
    pure ({ c.stopTimers with disputePrompt := false }, o, scoreWakes ++ adviseWakes)
  else do
    let (c, o, wakes) ← c.settle.enterPhaseBy start o
    pure (c, o, scoreWakes ++ adviseWakes ++ wakes)

/-- Takes what an envelope tells; only a snapshot has a countdown started. -/
def takeBy (c : Client) : Inbound → m (Client × Outcome × List Wake)
  | .update game player advisory => c.updateBy start game player advisory
  | inbound => pure (c.take inbound)

/-- Takes a frame from the server. -/
def receiveBy (c : Client) (frame : String) : m (Client × Outcome × List Wake) :=
  if c.halted then pure (c, .quiet, [])
  else
    match Inbound.ofText frame with
    | .ok inbound => c.takeBy start inbound
    | .error e =>
      let (c, wakes) := c.halt e
      pure (c, .advise e.advisory, wakes)

/-- Takes an alarm; only the end of the reading time has a countdown started. -/
def alarmBy (c : Client) (a : Alarm) : m (Client × Bool × List Wake) :=
  match a.timeline with
  | .reading =>
    let (window, opened) := c.window.elapse a.generation
    if opened then do
      let (c, wakes) ← start { c with window := window } .buzz c.buzzTime
      pure (c, true, wakes)
    else pure (c, false, [])
  | _ => pure (c.alarm a)

/-- One event: the client after it, what it says and the alarms it asks for. -/
def stepBy (c : Client) : Event → m (Client × Reply × List Wake)
  | .frame text => do
    let (c, outcome, wakes) ← c.receiveBy start text
    pure (c, .outcome outcome, wakes)
  | .alarm a => do
    let (c, changed, wakes) ← c.alarmBy start a
    pure (c, .changed changed, wakes)
  | e => pure (c.step e)

/-- The client after some events, and the alarms it asked for, in order. -/
def runBy (c : Client) : List Event → m (Client × List Wake)
  | [] => pure (c, [])
  | e :: es => do
    let (c, _, wakes) ← c.stepBy start e
    let (c, more) ← c.runBy es
    pure (c, wakes ++ more)

end By

/-! ### One start at most -/

/-- A start on the way from one client to another. -/
structure LeadsTo (c b : Client) (p : Phase) (d : Duration) (c' : Client) : Prop where
  /-- Who starts it has the settings that are left. -/
  settings : b.settings = c'.settings
  /-- Who starts it has the snapshots that are left. -/
  latest : b.latest = c'.latest
  /-- It is for the phase of play. -/
  phase : p = b.latest.phase
  /-- It is of the time that the phase asks for, or of the time to buzz. -/
  time : b.timing.time? = some d ∨ p = .buzz ∧ d = b.buzzTime
  /-- Nothing is in its way. -/
  unpaused : b.countdown.paused = false
  /-- No other countdown was started before. -/
  first : b.countdown.generation = c.countdown.generation
  /-- No other countdown is started after. -/
  last : c'.countdown = (b.startCountdown p d).1.countdown

theorem LeadsTo.congr {c c₁ b d d₁ : Client} {p : Phase} {t : Duration} (h : LeadsTo c b p t d)
    (hc : c.countdown.generation = c₁.countdown.generation) (hs : d₁.settings = d.settings)
    (hl : d₁.latest = d.latest) (hd : d₁.countdown = d.countdown) : LeadsTo c₁ b p t d₁ where
  settings := h.settings.trans hs.symm
  latest := h.latest.trans hl.symm
  phase := h.phase
  time := h.time
  unpaused := h.unpaused
  first := h.first.trans hc
  last := hd.trans h.last

section StartsOnce

variable {m : Type → Type} [Monad m]

/-- A computation from a client that starts a countdown once at most, whatever the starter, and
otherwise does nothing but tell what it comes to. -/
inductive StartsOnce {β : Type} (start : Starter m) (c : Client) (x : m (Client × β))
    (a : Client × β) : Prop
  /-- It starts none. -/
  | never (hsame : a.1.countdown.generation = c.countdown.generation) (hx : x = pure a)
  /-- It starts one. -/
  | once (b : Client) (p : Phase) (d : Duration) (k : Client × List Wake → Client × β)
      (hleads : LeadsTo c b p d a.1) (hx : x = k <$> start b p d)
      (ha : a = k (b.startCountdown p d))

variable {start : Starter m} {c : Client} {β γ : Type}

/-- What comes before the start and leaves the generation of the countdown as it is. -/
theorem StartsOnce.after {c₀ : Client} {x : m (Client × β)} {a : Client × β}
    (h : StartsOnce start c x a) (hc : c.countdown.generation = c₀.countdown.generation) :
    StartsOnce start c₀ x a := by
  cases h with
  | never hsame hx => exact .never (hsame.trans hc) hx
  | once b p d k hleads hx ha => exact .once b p d k (hleads.congr hc rfl rfl rfl) hx ha

variable [LawfulMonad m]

/-- What comes after the start and leaves the settings, the snapshots and the countdown as they
are. -/
theorem StartsOnce.bind {x : m (Client × β)} {a : Client × β} (h : StartsOnce start c x a)
    {f : Client × β → m (Client × γ)} {k : Client × β → Client × γ} (hf : ∀ r, f r = pure (k r))
    (hs : (k a).1.settings = a.1.settings) (hl : (k a).1.latest = a.1.latest)
    (hc : (k a).1.countdown = a.1.countdown) : StartsOnce start c (x >>= f) (k a) := by
  obtain rfl : f = fun r => pure (k r) := funext hf
  cases h with
  | never hsame hx =>
    refine .never (by rw [hc, hsame]) ?_
    rw [hx, pure_bind]
  | once b p d j hleads hx ha =>
    refine .once b p d (k ∘ j) (hleads.congr rfl hs hl hc) ?_ (congrArg k ha)
    rw [hx, bind_pure_comp, comp_map]

/-- A start itself. -/
theorem startsOnce_start (start : Starter m) {p : Phase} {d : Duration}
    (hphase : p = c.latest.phase)
    (htime : c.timing.time? = some d ∨ p = .buzz ∧ d = c.buzzTime)
    (hpaused : c.countdown.paused = false) :
    StartsOnce start c (start c p d) (c.startCountdown p d) := by
  obtain ⟨k, o, hframe⟩ := startCountdown_frame c p d
  refine .once c p d id ?_ (id_map _).symm rfl
  exact {
    settings := by rw [hframe]
    latest := by rw [hframe]
    phase := hphase
    time := htime
    unpaused := hpaused
    first := rfl
    last := rfl }

/-! ### Operations -/

theorem startsOnce_keepTime (start : Starter m) (hpaused : c.countdown.paused = false) :
    StartsOnce start c (c.keepTimeBy start) c.keepTime := by
  unfold keepTimeBy keepTime
  cases ht : c.timing with
  | stop => exact .never rfl rfl
  | keep => exact .never rfl rfl
  | ensure d =>
    by_cases ho : c.owner = some c.latest.phase
    · simp only [if_pos ho]
      exact .never rfl rfl
    · simp only [if_neg ho]
      exact startsOnce_start start rfl (.inl (by rw [ht]; rfl)) hpaused
  | restart d => exact startsOnce_start start rfl (.inl (by rw [ht]; rfl)) hpaused

theorem startsOnce_enterWindow (start : Starter m) (hb : c.latest.phase = .buzz)
    (hpaused : c.countdown.paused = false) :
    StartsOnce start c (c.enterWindowBy start) c.enterWindow := by
  cases hnew : c.entersAnew with
  | false =>
    rw [enterWindow_of_keeps hnew]
    refine .never rfl ?_
    simp only [entersAnew, Bool.not_eq_false'] at hnew
    simp only [enterWindowBy, hnew, if_true]
  | true =>
    have hnot : ¬ (!c.latest.game.startsBuzz && c.window.isFor c.latest.game.clue) = true := by
      simpa only [entersAnew, Bool.not_eq_true', Bool.not_eq_true] using hnew
    cases hfirst : c.latest.game.firstAttempt with
    | true =>
      rw [enterWindow_of_first hnew hfirst]
      refine .never rfl ?_
      rw [enterWindowBy, if_neg hnot]
      simp only [entered, BuzzWindow.enter, hfirst, if_true]
    | false =>
      have hstart := startsOnce_start (c := c.entered) start hb.symm (.inr ⟨rfl, rfl⟩) hpaused
      have hby : c.enterWindowBy start =
          start c.entered .buzz c.entered.buzzTime >>= fun r => pure (r.1, [] ++ r.2) := by
        rw [enterWindowBy, if_neg hnot]
        simp only [entered, BuzzWindow.enter, hfirst]
        rfl
      rw [enterWindow_of_later hnew hfirst, hby]
      exact (hstart.bind (fun _ => rfl) rfl rfl rfl).after rfl

theorem startsOnce_enterPhase (start : Starter m) (hpaused : c.countdown.paused = false)
    (o : Outcome) : StartsOnce start c (c.enterPhaseBy start o) (c.enterPhase o) := by
  have hkeep := startsOnce_keepTime start hpaused
  unfold enterPhaseBy enterPhase
  cases hphase : c.latest.phase with
  | buzz =>
    exact (startsOnce_enterWindow start hphase hpaused).bind (k := fun r => (r.1, o, r.2))
      (fun _ => rfl) rfl rfl rfl
  | dispute =>
    exact hkeep.bind (k := fun r => ({ r.1 with disputePrompt := true },
      { o with disputePrompt := true }, r.2)) (fun _ => rfl) rfl rfl rfl
  | error => exact .never rfl rfl
  | _ => exact hkeep.bind (k := fun r => (r.1, o, r.2)) (fun _ => rfl) rfl rfl rfl

theorem startsOnce_update (start : Starter m) (c : Client) (g : Game) (player : Player)
    (advisory : Option String) :
    StartsOnce start c (c.updateBy start g player advisory) (c.update g player advisory) := by
  cases hp : g.paused with
  | true =>
    rw [update_of_paused hp]
    refine .never ?_ ?_
    · show (c.applied g player advisory).1.countdown.generation = _
      simp [hp]
    · simp only [updateBy, applied, hp, if_true]
  | false =>
    have hby : c.updateBy start g player advisory =
        (c.applied g player advisory).1.settle.enterPhaseBy start (c.applied g player advisory).2.1
          >>= fun r => pure (r.1, r.2.1, (c.applied g player advisory).2.2 ++ r.2.2) := by
      simp only [updateBy, applied, hp]
      rfl
    have hpaused := settle_unpaused c hp player advisory
    have hsame : (c.applied g player advisory).1.settle.countdown.generation
        = c.countdown.generation := by
      rw [settle_countdown, applied_countdown, hp]
      split <;> rfl
    rw [update_of_running hp, hby]
    exact ((startsOnce_enterPhase start hpaused _).bind (fun _ => rfl) rfl rfl rfl).after hsame

/-! ### Events -/

theorem startsOnce_receive (start : Starter m) (c : Client) (text : String) :
    StartsOnce start c (c.receiveBy start text) (c.receive text) := by
  cases hh : c.halted with
  | true =>
    rw [receive_of_halted hh]
    exact .never rfl (by simp [receiveBy, hh])
  | false =>
    cases hi : Inbound.ofText text with
    | error e =>
      rw [receive_of_error hh hi]
      exact .never rfl (by simp [receiveBy, hh, hi])
    | ok i =>
      have hby : c.receiveBy start text = c.takeBy start i := by simp [receiveBy, hh, hi]
      rw [receive_of_ok hh hi, hby]
      cases i with
      | update g player advisory => exact startsOnce_update start c g player advisory
      | heartbeat => exact .never rfl rfl
      | notice code message =>
        refine .never ?_ rfl
        by_cases hm : message = ""
        · subst hm
          rfl
        · rw [take_notice_of_nonempty c code hm]
          rfl
      | failure kind code message => cases kind <;> exact .never rfl rfl

theorem alarm_generation_of_other {a : Alarm} (h : a.timeline ≠ .reading) :
    (c.alarm a).1.countdown.generation = c.countdown.generation := by
  cases rang c a with
  | stale heq => rw [heq]
  | ticked r n _ _ heq =>
    rw [heq]
    split <;> rfl
  | opened n ha =>
    rw [ha] at h
    exact absurd rfl h
  | faded s m _ heq => rw [heq]

theorem startsOnce_alarm (start : Starter m) (hr : c.Ready) (hc : c.Coupled) (a : Alarm) :
    StartsOnce start c (c.alarmBy start a) (c.alarm a) := by
  obtain ⟨t, n⟩ := a
  cases t with
  | reading =>
    by_cases hb : c.window.stage = .blocked n
    · -- the window was there, so the snapshot is of the buzzing and not paused
      have hwindow : c.window.stage ≠ .closed := by simp [hb]
      have hphase : Phase.buzz = c.latest.phase := (hc.stage_iff.mp hwindow).2.2.symm
      have hby : c.alarmBy start ⟨.reading, n⟩ =
          start { c with window := { c.window with stage := .open } } .buzz c.buzzTime
            >>= fun r => pure (r.1, true, r.2) := by
        simp only [alarmBy, BuzzWindow.elapse, hb, if_true]
      have hstart := startsOnce_start
        (c := { c with window := { c.window with stage := .open } }) start hphase
        (.inr ⟨rfl, rfl⟩) (hr hwindow)
      rw [alarm_reading_of_due hb, hby]
      exact (hstart.bind (fun _ => rfl) rfl rfl rfl).after rfl
    · have hstale : c.alarm ⟨.reading, n⟩ = (c, false, []) := by
        simp [alarm, BuzzWindow.elapse, hb]
      rw [hstale]
      exact .never rfl (by simp [alarmBy, BuzzWindow.elapse, hb])
  | _ => exact .never (alarm_generation_of_other (by simp)) rfl

/-- **An event starts a countdown once at most**, when nothing is in its way, of the time that
the snapshot it leaves asks for; and what it leaves of the countdown is what that start
leaves. -/
theorem startsOnce_step (start : Starter m) (hr : c.Ready) (hc : c.Coupled) (e : Event) :
    StartsOnce start c (c.stepBy start e) (c.step e) := by
  cases e with
  | frame text =>
    exact (startsOnce_receive start c text).bind (k := fun r => (r.1, Reply.outcome r.2.1, r.2.2))
      (fun _ => rfl) rfl rfl rfl
  | alarm a =>
    exact (startsOnce_alarm start hr hc a).bind (k := fun r => (r.1, Reply.changed r.2.1, r.2.2))
      (fun _ => rfl) rfl rfl rfl
  | action a =>
    obtain ⟨b, hb, -⟩ := step_action_frame c a
    exact .never (by rw [hb]) rfl
  | refused r => exact .never rfl rfl
  | leave => exact .never rfl rfl
  | reset => exact .never rfl rfl

end StartsOnce

end Client

end QuizClient
