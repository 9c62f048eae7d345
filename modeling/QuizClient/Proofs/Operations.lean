import QuizClient.Client.Event

/-!
# What the operations of a client do

The operations of a client are written as programs that hand on the client and
the alarms asked for.  Here each of them is one equation for each of its cases,
or one statement of what it leaves alone, and later proofs use these in place of
the programs.

## Main definitions

* `Client.applied` — the client once a snapshot is taken over, before its phase
  of play says anything.
* `Action.spends` — whether an action spends the buzz of the latest snapshot.
* `Client.Received` — what can happen when a frame comes.
* `Client.entersAnew`, `Client.entered` — when a snapshot enters the buzz window,
  and the client that entered it.

## Main results

* `update_of_paused`, `update_of_running` — a snapshot, by its pause flag.
* `enterWindow_of_keeps`, `enterWindow_of_first`, `enterWindow_of_later` — the
  buzz window, by whether and how it is entered.
* `startCountdown_frame`, `keepTime_frame` — what starting, stopping or keeping a
  countdown leaves alone.
* `received` — a frame, by what it tells.
* `run_invariant` — what every event keeps, every run keeps.
-/

namespace QuizClient

/-- Whether an action spends the buzz of the latest snapshot. -/
def Action.spends : Action → Bool
  | .buzz _ => true
  | _ => false

namespace Client

/-! ### The countdown -/

theorem startCountdown_of_refused {c : Client} {d : Duration}
    (h : c.countdown.paused = true ∨ d.roundUp = 0) (p : Phase) :
    c.startCountdown p d = (c, []) := by
  unfold startCountdown Countdown.start
  rcases h with h | h
  · simp [h]
  · by_cases hp : c.countdown.paused = true <;> simp [hp, h]

theorem startCountdown_of_accepted {c : Client} {d : Duration} (hp : c.countdown.paused = false)
    (hd : d.roundUp ≠ 0) (p : Phase) :
    c.startCountdown p d =
      ({ c with
          countdown := ⟨.running d.roundUp (c.countdown.generation + 1),
            c.countdown.generation + 1, c.countdown.paused⟩
          owner := some p }, [Countdown.tickWake (c.countdown.generation + 1)]) := by
  unfold startCountdown
  rw [Countdown.start_eq_ok_iff.mpr ⟨hp, hd, rfl⟩]

/-- Starting a countdown touches the countdown and its owner alone. -/
theorem startCountdown_frame (c : Client) (p : Phase) (d : Duration) :
    ∃ k o, (c.startCountdown p d).1 = { c with countdown := k, owner := o } := by
  unfold startCountdown
  split
  · exact ⟨_, _, rfl⟩
  · exact ⟨_, _, rfl⟩

/-- A phase stops the countdown, leaves it alone or starts one. -/
theorem keepTime_cases (c : Client) :
    c.keepTime = (c.cancelCountdown, []) ∨ c.keepTime = (c, []) ∨
      ∃ d, c.keepTime = c.startCountdown c.latest.phase d := by
  unfold keepTime
  cases c.timing with
  | stop => exact .inl rfl
  | keep => exact .inr (.inl rfl)
  | ensure d =>
    by_cases h : c.owner = some c.latest.phase
    · exact .inr (.inl (if_pos h))
    · exact .inr (.inr ⟨d, if_neg h⟩)
  | restart d => exact .inr (.inr ⟨d, rfl⟩)

/-- What a phase asks of the countdown touches the countdown and its owner alone. -/
theorem keepTime_frame (c : Client) :
    ∃ k o, c.keepTime.1 = { c with countdown := k, owner := o } := by
  rcases keepTime_cases c with h | h | ⟨d, h⟩
  · exact ⟨c.countdown.cancel, none, by rw [h]; rfl⟩
  · exact ⟨c.countdown, c.owner, by rw [h]⟩
  · rw [h]
    exact startCountdown_frame c c.latest.phase d

/-! ### The buzz window -/

/-- Whether the latest snapshot enters the buzz window anew. -/
def entersAnew (c : Client) : Bool :=
  !(!c.latest.game.startsBuzz && c.window.isFor c.latest.game.clue)

/-- The client in the buzz window that the latest snapshot entered. -/
def entered (c : Client) : Client :=
  { c.cancelCountdown with window := (c.window.enter c.latest.game c.settings.pace).1 }

theorem enterWindow_of_keeps {c : Client} (h : c.entersAnew = false) : c.enterWindow = (c, []) := by
  simp only [entersAnew, Bool.not_eq_false'] at h
  simp only [enterWindow, h, if_true]

theorem enterWindow_of_first {c : Client} (h : c.entersAnew = true)
    (hf : c.latest.game.firstAttempt = true) :
    c.enterWindow = (c.entered, (c.window.enter c.latest.game c.settings.pace).2.2) := by
  simp only [entersAnew, Bool.not_eq_true'] at h
  unfold enterWindow entered BuzzWindow.enter
  simp only [h, hf]
  rfl

theorem enterWindow_of_later {c : Client} (h : c.entersAnew = true)
    (hf : c.latest.game.firstAttempt = false) :
    c.enterWindow = c.entered.startCountdown .buzz c.buzzTime := by
  simp only [entersAnew, Bool.not_eq_true'] at h
  unfold enterWindow entered BuzzWindow.enter
  simp only [h, hf]
  rfl

/-! ### Snapshots -/

/-- The client once a snapshot is taken over, its message is shown and its pause flag
is known, with the outcome and the alarms so far. -/
def applied (c : Client) (g : Game) (p : Player) (advisory : Option String) :
    Client × Outcome × List Wake :=
  let (c, scoreWakes) := c.replace g p
  let (c, o, adviseWakes) := c.adviseUpdate advisory
  ({ c with countdown := c.countdown.setPaused g.paused }, o, scoreWakes ++ adviseWakes)

theorem update_of_paused {c : Client} {g : Game} (h : g.paused = true) (p : Player)
    (advisory : Option String) :
    c.update g p advisory =
      ({ (c.applied g p advisory).1.stopTimers with disputePrompt := false },
        (c.applied g p advisory).2) := by
  simp only [update, applied, h, if_true]

theorem update_of_running {c : Client} {g : Game} (h : g.paused = false) (p : Player)
    (advisory : Option String) :
    c.update g p advisory =
      (((c.applied g p advisory).1.settle.enterPhase (c.applied g p advisory).2.1).1,
        ((c.applied g p advisory).1.settle.enterPhase (c.applied g p advisory).2.1).2.1,
        (c.applied g p advisory).2.2 ++
          ((c.applied g p advisory).1.settle.enterPhase (c.applied g p advisory).2.1).2.2) := by
  simp [update, applied, h]

/-- Once the snapshots are replaced, only the countdown and the advisory are touched. -/
theorem applied_frame (c : Client) (g : Game) (p : Player) (advisory : Option String) :
    ∃ a n, (c.applied g p advisory).1 =
      { (c.replace g p).1 with
        countdown := c.countdown.setPaused g.paused
        advisory := a
        advisoryGeneration := n } := by
  cases advisory with
  | none => exact ⟨_, _, rfl⟩
  | some message => exact ⟨_, _, rfl⟩

section applied

variable (c : Client) (g : Game) (p : Player) (advisory : Option String)

@[simp] theorem applied_settings : (c.applied g p advisory).1.settings = c.settings := by
  obtain ⟨a, n, h⟩ := applied_frame c g p advisory
  rw [h]
  rfl

@[simp] theorem applied_latest : (c.applied g p advisory).1.latest = c.latest.replace g p := by
  obtain ⟨a, n, h⟩ := applied_frame c g p advisory
  rw [h]
  rfl

@[simp] theorem applied_countdown :
    (c.applied g p advisory).1.countdown = c.countdown.setPaused g.paused := by
  obtain ⟨a, n, h⟩ := applied_frame c g p advisory
  rw [h]

@[simp] theorem applied_owner : (c.applied g p advisory).1.owner = c.owner := by
  obtain ⟨a, n, h⟩ := applied_frame c g p advisory
  rw [h]
  rfl

@[simp] theorem applied_window : (c.applied g p advisory).1.window = c.window := by
  obtain ⟨a, n, h⟩ := applied_frame c g p advisory
  rw [h]
  rfl

@[simp] theorem applied_halted : (c.applied g p advisory).1.halted = c.halted := by
  obtain ⟨a, n, h⟩ := applied_frame c g p advisory
  rw [h]
  rfl

end applied

/-- What belongs to an earlier phase: the buzz window outside its phase, and a countdown
that another phase started. -/
theorem settle_eq (c : Client) :
    c.settle =
      { c with
        countdown := if c.owner.any (· != c.latest.phase) then c.countdown.cancel else c.countdown
        owner := if c.owner.any (· != c.latest.phase) then none else c.owner
        window := if c.latest.phase = .buzz then c.window else c.window.close
        disputePrompt := false } := by
  unfold settle
  by_cases hp : c.latest.phase = .buzz
  · by_cases ho : c.owner.any (· != c.latest.phase) = true
    · simp only [if_pos hp, if_pos ho]
      rfl
    · simp only [if_pos hp, if_neg ho]
  · by_cases ho : c.owner.any (· != c.latest.phase) = true
    · simp only [if_neg hp, if_pos ho]
      rfl
    · simp only [if_neg hp, if_neg ho]

section settle

variable (c : Client)

@[simp] theorem settle_settings : c.settle.settings = c.settings := by rw [settle_eq]

@[simp] theorem settle_latest : c.settle.latest = c.latest := by rw [settle_eq]

@[simp] theorem settle_countdown :
    c.settle.countdown
      = if c.owner.any (· != c.latest.phase) then c.countdown.cancel else c.countdown := by
  rw [settle_eq]

@[simp] theorem settle_owner :
    c.settle.owner = if c.owner.any (· != c.latest.phase) then none else c.owner := by
  rw [settle_eq]

@[simp] theorem settle_window :
    c.settle.window = if c.latest.phase = .buzz then c.window else c.window.close := by
  rw [settle_eq]

@[simp] theorem settle_halted : c.settle.halted = c.halted := by rw [settle_eq]

end settle

@[simp] theorem phase_replace (l : Latest) (g : Game) (p : Player) :
    (l.replace g p).phase = g.phase := rfl

@[simp] theorem game_replace (l : Latest) (g : Game) (p : Player) :
    (l.replace g p).game = g := rfl

theorem enterPhase_of_buzz {c : Client} (h : c.latest.phase = .buzz) (o : Outcome) :
    c.enterPhase o = (c.enterWindow.1, o, c.enterWindow.2) := by
  simp only [enterPhase, h]

theorem enterPhase_of_dispute {c : Client} (h : c.latest.phase = .dispute) (o : Outcome) :
    c.enterPhase o =
      ({ c.keepTime.1 with disputePrompt := true }, { o with disputePrompt := true },
        c.keepTime.2) := by
  simp only [enterPhase, h]

theorem enterPhase_of_error {c : Client} (h : c.latest.phase = .error) (o : Outcome) :
    c.enterPhase o =
      ((c.halt .errorPhase).1, { o with advisory := (c.halt .errorPhase).1.advisory },
        (c.halt .errorPhase).2) := by
  simp only [enterPhase, h]

theorem enterPhase_of_other {c : Client} (hb : c.latest.phase ≠ .buzz)
    (hd : c.latest.phase ≠ .dispute) (he : c.latest.phase ≠ .error) (o : Outcome) :
    c.enterPhase o = (c.keepTime.1, o, c.keepTime.2) := by
  unfold enterPhase
  split
  · next h => exact absurd h hb
  · next h => exact absurd h hd
  · next h => exact absurd h he
  · rfl

/-- The buzz window touches itself and the countdown alone. -/
theorem enterWindow_frame (c : Client) :
    ∃ k o w, c.enterWindow.1 = { c with countdown := k, owner := o, window := w } := by
  cases hnew : c.entersAnew with
  | false => exact ⟨c.countdown, c.owner, c.window, by rw [enterWindow_of_keeps hnew]⟩
  | true =>
    cases hfirst : c.latest.game.firstAttempt with
    | true => exact ⟨_, _, _, by rw [enterWindow_of_first hnew hfirst]; rfl⟩
    | false =>
      obtain ⟨k, o, h⟩ := startCountdown_frame c.entered .buzz c.buzzTime
      exact ⟨k, o, _, by rw [enterWindow_of_later hnew hfirst, h]; rfl⟩

/-- What the phase of play leaves alone: the settings, the snapshots, the score changes,
the destination and the buzz latch. -/
theorem enterPhase_frame (c : Client) (o : Outcome) :
    ∃ k r w a n d h, (c.enterPhase o).1 =
      { c with
        countdown := k
        owner := r
        window := w
        advisory := a
        advisoryGeneration := n
        disputePrompt := d
        halted := h } := by
  by_cases hb : c.latest.phase = .buzz
  · obtain ⟨k, r, w, h⟩ := enterWindow_frame c
    exact ⟨k, r, w, _, _, _, _, by rw [enterPhase_of_buzz hb, h]⟩
  obtain ⟨k, r, h⟩ := keepTime_frame c
  by_cases hd : c.latest.phase = .dispute
  · exact ⟨k, r, _, _, _, _, _, by rw [enterPhase_of_dispute hd, h]⟩
  by_cases he : c.latest.phase = .error
  · exact ⟨_, _, _, _, _, _, _, by rw [enterPhase_of_error he]; rfl⟩
  · exact ⟨k, r, _, _, _, _, _, by rw [enterPhase_of_other hb hd he, h]⟩

/-- What a snapshot leaves as it is once the snapshots are replaced. -/
theorem update_frame (c : Client) (g : Game) (p : Player) (advisory : Option String) :
    ∃ k r w a n d h, (c.update g p advisory).1 =
      { (c.replace g p).1 with
        countdown := k
        owner := r
        window := w
        advisory := a
        advisoryGeneration := n
        disputePrompt := d
        halted := h } := by
  obtain ⟨a, n, ha⟩ := applied_frame c g p advisory
  cases hp : g.paused with
  | true => exact ⟨_, _, _, _, _, _, _, by rw [update_of_paused hp, ha]; rfl⟩
  | false =>
    obtain ⟨k, r, w, a', n', d, h, he⟩ :=
      enterPhase_frame (c.applied g p advisory).1.settle (c.applied g p advisory).2.1
    exact ⟨k, r, w, a', n', d, h, by rw [update_of_running hp, he, settle_eq, ha]⟩

@[simp] theorem update_settings (c : Client) (g : Game) (p : Player) (advisory : Option String) :
    (c.update g p advisory).1.settings = c.settings := by
  obtain ⟨_, _, _, _, _, _, _, h⟩ := update_frame c g p advisory
  rw [h]
  rfl

@[simp] theorem update_latest (c : Client) (g : Game) (p : Player) (advisory : Option String) :
    (c.update g p advisory).1.latest = c.latest.replace g p := by
  obtain ⟨_, _, _, _, _, _, _, h⟩ := update_frame c g p advisory
  rw [h]
  rfl

@[simp] theorem update_changes (c : Client) (g : Game) (p : Player) (advisory : Option String) :
    (c.update g p advisory).1.changes = (c.replace g p).1.changes := by
  obtain ⟨_, _, _, _, _, _, _, h⟩ := update_frame c g p advisory
  rw [h]

/-! ### Frames -/

theorem take_notice_of_nonempty (c : Client) (code : Int64) {message : String}
    (h : message ≠ "") :
    c.take (.notice code message) =
      ((c.surface ⟨.info, message⟩).1, .advise ⟨.info, message⟩,
        (c.surface ⟨.info, message⟩).2) := by
  simp only [take, h, if_false]

theorem take_rejected (c : Client) (code : Int64) (message : String) :
    c.take (.failure .rejected code message) =
      (({ c with buzzSpent := false }.surface ⟨.rejected, message⟩).1,
        .advise ⟨.rejected, message⟩,
        ({ c with buzzSpent := false }.surface ⟨.rejected, message⟩).2) := rfl

theorem take_unauthorized (c : Client) (code : Int64) (message : String) :
    c.take (.failure .unauthorized code message) =
      (({ c.discard with navigation := some .lobby }.surface ⟨.unauthorized, message⟩).1,
        { Outcome.advise ⟨.unauthorized, message⟩ with navigate := some .lobby },
        ({ c.discard with navigation := some .lobby }.surface ⟨.unauthorized, message⟩).2) := rfl

theorem take_serverError (c : Client) (code : Int64) (message : String) :
    c.take (.failure .serverError code message) =
      ((c.surface ⟨.serverError, message⟩).1, .advise ⟨.serverError, message⟩,
        (c.surface ⟨.serverError, message⟩).2) := rfl

theorem receive_of_halted {c : Client} (h : c.halted = true) (text : String) :
    c.receive text = (c, .quiet, []) := by
  simp [receive, h]

theorem receive_of_ok {c : Client} (h : c.halted = false) {text : String} {i : Inbound}
    (hi : Inbound.ofText text = .ok i) : c.receive text = c.take i := by
  simp [receive, h, hi]

theorem receive_of_error {c : Client} (h : c.halted = false) {text : String} {e : ProtocolError}
    (he : Inbound.ofText text = .error e) :
    c.receive text = ((c.halt e).1, .advise e.advisory, (c.halt e).2) := by
  simp [receive, h, he]

/-- What can happen when a frame comes. -/
inductive Received (c : Client) (text : String) : Prop
  /-- It is dropped, or says nothing. -/
  | ignored (h : c.receive text = (c, .quiet, []))
  /-- A message is shown. -/
  | shown (a : Advisory) (h : c.receive text = ((c.surface a).1, .advise a, (c.surface a).2))
  /-- The server rejected an action. -/
  | rejected (a : Advisory)
      (h : c.receive text =
        (({ c with buzzSpent := false }.surface a).1, .advise a,
          ({ c with buzzSpent := false }.surface a).2))
  /-- The session is no longer accepted. -/
  | unauthorized (a : Advisory)
      (h : c.receive text =
        (({ c.discard with navigation := some .lobby }.surface a).1,
          { Outcome.advise a with navigate := some .lobby },
          ({ c.discard with navigation := some .lobby }.surface a).2))
  /-- The frame cannot be trusted. -/
  | distrusted (e : ProtocolError)
      (h : c.receive text = ((c.halt e).1, .advise e.advisory, (c.halt e).2))
  /-- A snapshot comes. -/
  | updated (g : Game) (p : Player) (advisory : Option String) (hh : c.halted = false)
      (hi : Inbound.ofText text = .ok (.update g p advisory))
      (h : c.receive text = c.update g p advisory)

/-- **What can happen when a frame comes**, and nothing else. -/
theorem received (c : Client) (text : String) : Received c text := by
  cases hh : c.halted with
  | true => exact .ignored (receive_of_halted hh text)
  | false =>
    cases hi : Inbound.ofText text with
    | error e => exact .distrusted e (receive_of_error hh hi)
    | ok i =>
      have h : c.receive text = c.take i := receive_of_ok hh hi
      cases i with
      | heartbeat => exact .ignored h
      | update g p advisory => exact .updated g p advisory hh hi h
      | notice code message =>
        by_cases hm : message = ""
        · subst hm
          exact .ignored h
        · exact .shown ⟨.info, message⟩ (h.trans (take_notice_of_nonempty c code hm))
      | failure kind code message =>
        cases kind with
        | rejected => exact .rejected ⟨.rejected, message⟩ h
        | unauthorized => exact .unauthorized ⟨.unauthorized, message⟩ h
        | serverError => exact .shown ⟨.serverError, message⟩ h

/-! ### Events -/

@[simp] theorem step_frame (c : Client) (text : String) :
    c.step (.frame text)
      = ((c.receive text).1, .outcome (c.receive text).2.1, (c.receive text).2.2) := rfl

@[simp] theorem step_alarm (c : Client) (a : Alarm) :
    c.step (.alarm a) = ((c.alarm a).1, .changed (c.alarm a).2.1, (c.alarm a).2.2) := rfl

@[simp] theorem step_refused (c : Client) (r : Refusal) :
    c.step (.refused r) = ((c.noteRefusal r).1, .none, (c.noteRefusal r).2) := rfl

@[simp] theorem step_leave (c : Client) : c.step .leave = (c.leave, .none, []) := rfl

@[simp] theorem step_reset (c : Client) : c.step .reset = (c.reset, .none, []) := rfl

theorem step_action_of_refused {c : Client} {a : Action} {r : Refusal} (h : c.refusal? a = some r) :
    c.step (.action a) = (c, .refusal r, []) := by
  simp only [step, prepare, h]

theorem step_action_of_allowed {c : Client} {a : Action} (h : c.refusal? a = none) :
    c.step (.action a) =
      ({ c with buzzSpent := a.spends || c.buzzSpent }, .frame (a.frame c.latest.phase), []) := by
  simp only [step, prepare, h]
  cases a <;> rfl

/-- An action touches the buzz latch alone and asks for no alarm. -/
theorem step_action_frame (c : Client) (a : Action) :
    ∃ b, (c.step (.action a)).1 = { c with buzzSpent := b } ∧ (c.step (.action a)).2.2 = [] := by
  cases h : c.refusal? a with
  | some r =>
    rw [step_action_of_refused h]
    exact ⟨c.buzzSpent, rfl, rfl⟩
  | none =>
    rw [step_action_of_allowed h]
    exact ⟨_, rfl, rfl⟩

/-! ### Runs -/

theorem run_concat (c : Client) (es : List Event) (e : Event) :
    (c.run (es ++ [e])).1 = ((c.run es).1.step e).1 := by
  simp [run_append]

/-- **What every event keeps, every run keeps.** -/
theorem run_invariant {P : Client → Prop} (hstep : ∀ {c : Client}, P c → ∀ e, P (c.step e).1)
    {c : Client} (h : P c) (es : List Event) : P (c.run es).1 := by
  induction es generalizing c with
  | nil => exact h
  | cons e es ih => exact ih (hstep h e)

/-- What holds at every point of a run holds when one more event comes, if it holds then. -/
theorem forall_prefix_concat {P : List Event → Prop} {es : List Event} {e : Event}
    (h : ∀ mid, mid <+: es → P mid) (he : P (es ++ [e])) :
    ∀ mid, mid <+: es ++ [e] → P mid := by
  intro mid hmid
  rcases List.prefix_concat_iff.mp hmid with rfl | hmid
  · exact he
  · exact h mid hmid

end Client

end QuizClient
