import QuizClient.Proofs.Operations

/-!
# The course of a timeline

Four timelines ask for alarms: the countdown, the reading time, the display of
score changes and the advisory.  They count their generations apart and end in
different ways, yet all of them keep one discipline.  A timeline stands at a
generation, and what it expects of the alarms of that generation is its
standing; everything that happens to it, the return of its own alarms apart, is
a sequence of three moves: it arms a new generation and asks for its alarm, it
goes on to a new generation without one, or it lets the current one lapse.

## Main definitions

* `Standing`, `Position`, `Client.position` — where a timeline stands.
* `Move`, `Course` — what happens to a timeline, and what it asks for meanwhile.
* `Client.Leads` — every timeline goes from one client to another by a course.
* `Arrival` — what its own alarm does to a timeline that expects it.
* `Progress` — what one event does to a timeline.

## Main results

* `step_leads` — every event but an alarm leads from one client to the next.
* `alarm_changes_iff` — an alarm changes something when it is expected.
* `alarm_leads_other`, `alarm_arrival` — what an alarm does to the other
  timelines and to its own.
* `step_progress` — every event lets every timeline make progress.
-/

namespace QuizClient

/-! ### Positions, moves and courses -/

/-- What a timeline expects of the alarms of its generation. -/
inductive Standing where
  /-- The alarm of a generation will change something. -/
  | due (generation : Nat)
  /-- No alarm is left. -/
  | spent
  /-- An alarm may be left that will change nothing. -/
  | lapsed
  deriving DecidableEq, Repr

/-- Where a timeline stands. -/
structure Position where
  /-- Its generation. -/
  generation : Nat
  /-- What it expects. -/
  standing : Standing
  deriving DecidableEq, Repr

/-- One move of a timeline, with the generations of the alarms it asks for. -/
inductive Move : Position → List Nat → Position → Prop
  /-- A new generation starts and asks for its alarm. -/
  | arm (p : Position) :
      Move p [p.generation + 1] ⟨p.generation + 1, .due (p.generation + 1)⟩
  /-- A new generation starts that needs none. -/
  | renew (p : Position) : Move p [] ⟨p.generation + 1, .spent⟩
  /-- The current generation ends before its alarm is back. -/
  | lapse (p : Position) : Move p [] ⟨p.generation, .lapsed⟩

/-- Moves one after the other. -/
inductive Course : Position → List Nat → Position → Prop
  /-- Nothing happens. -/
  | stay (p : Position) : Course p [] p
  /-- A move comes first. -/
  | move {p q r : Position} {ns ms : List Nat} :
      Move p ns q → Course q ms r → Course p (ns ++ ms) r

namespace Course

theorem of_move {p q : Position} {ns : List Nat} (h : Move p ns q) : Course p ns q := by
  have := Course.move h (.stay q)
  rwa [List.append_nil] at this

theorem trans {p q r : Position} {ns ms : List Nat} (h₁ : Course p ns q) (h₂ : Course q ms r) :
    Course p (ns ++ ms) r := by
  induction h₁ with
  | stay => exact h₂
  | move h _ ih =>
    rw [List.append_assoc]
    exact .move h (ih h₂)

/-- Generations never go back, and every alarm asked for on the way belongs to a
later generation than the first. -/
theorem bounds {p q : Position} {ns : List Nat} (h : Course p ns q) :
    p.generation ≤ q.generation ∧ ∀ n ∈ ns, p.generation < n ∧ n ≤ q.generation := by
  induction h with
  | stay => simp
  | move h _ ih =>
    obtain ⟨hle, hns⟩ := ih
    cases h with
    | arm =>
      simp only [List.cons_append, List.nil_append, List.mem_cons, forall_eq_or_imp] at hle hns ⊢
      refine ⟨by omega, ⟨by omega, hle⟩, fun n hn => ?_⟩
      have := hns n hn
      omega
    | renew =>
      simp only [List.nil_append] at hle hns ⊢
      refine ⟨by omega, fun n hn => ?_⟩
      have := hns n hn
      omega
    | lapse => exact ⟨hle, hns⟩

/-- What a course ends by expecting is what was expected before it, or was asked for on the
way. -/
theorem due_mem {p q : Position} {ns : List Nat} (h : Course p ns q) {n : Nat}
    (hn : q.standing = .due n) : p.standing = .due n ∨ n ∈ ns := by
  induction h with
  | stay => exact .inl hn
  | move h h' ih =>
    -- after `arm` the new generation is expected, after the other moves nothing is
    cases h with
    | arm =>
      rcases ih hn with h | h
      · cases h
        exact .inr List.mem_cons_self
      · exact .inr (List.mem_cons_of_mem _ h)
    | renew =>
      rcases ih hn with h | h
      · cases h
      · exact .inr h
    | lapse =>
      rcases ih hn with h | h
      · cases h
      · exact .inr h

/-- What a course ends by expecting is what was expected before it or of a later
generation. -/
theorem due {p q : Position} {ns : List Nat} (h : Course p ns q) {n : Nat}
    (hn : q.standing = .due n) : p.standing = .due n ∨ p.generation < n :=
  (h.due_mem hn).imp_right fun hmem => (h.bounds.2 n hmem).1

end Course

/-- What its own alarm does to a timeline that expects it. -/
inductive Arrival : Position → Nat → List Nat → Position → Prop
  /-- Nothing is left to expect. -/
  | last (g n : Nat) : Arrival ⟨g, .due n⟩ n [] ⟨g, .spent⟩
  /-- The same is expected again. -/
  | again (g n : Nat) : Arrival ⟨g, .due n⟩ n [n] ⟨g, .due n⟩

/-- What one event does to a timeline, with the generations of the alarms asked for. -/
inductive Progress : Position → List Nat → Position → Prop
  /-- It takes its course. -/
  | course {p q : Position} {ns : List Nat} (h : Course p ns q) : Progress p ns q
  /-- An alarm that it expects arrives. -/
  | arrival {p q : Position} {n : Nat} {ns : List Nat} (h : Arrival p n ns q) : Progress p ns q

namespace Position

/-- What a timeline expects is of its current generation. -/
def Sound (p : Position) : Prop := ∀ n, p.standing = .due n → n = p.generation

/-- A timeline has come to a generation and expects none of its alarms any more. -/
def Past (p : Position) (n : Nat) : Prop := n ≤ p.generation ∧ p.standing ≠ .due n

end Position

namespace Progress

variable {p q : Position} {ns : List Nat}

theorem sound (h : Progress p ns q) (hp : p.Sound) : q.Sound := by
  cases h with
  | arrival h =>
    cases h with
    | last => exact nofun
    | again => exact hp
  | course h =>
    induction h with
    | stay => exact hp
    | move h _ ih =>
      cases h with
      | arm => exact ih fun n hn => by cases hn; rfl
      | renew => exact ih nofun
      | lapse => exact ih nofun

/-- Generations never go back, and no alarm is asked for of a generation to come. -/
theorem bounds (h : Progress p ns q) (hp : p.Sound) :
    p.generation ≤ q.generation ∧ ∀ n ∈ ns, n ≤ q.generation := by
  cases h with
  | course h => exact ⟨h.bounds.1, fun n hn => (h.bounds.2 n hn).2⟩
  | arrival h =>
    cases h with
    | last => exact ⟨Nat.le_refl _, nofun⟩
    | again =>
      refine ⟨Nat.le_refl _, fun n hn => ?_⟩
      rw [List.mem_singleton.mp hn]
      exact Nat.le_of_eq (hp _ rfl)

/-- What is past stays past. -/
theorem past (h : Progress p ns q) {n : Nat} (hn : p.Past n) : q.Past n := by
  obtain ⟨hle, hdue⟩ := hn
  cases h with
  | arrival h =>
    cases h with
    | last => exact ⟨hle, nofun⟩
    | again => exact ⟨hle, hdue⟩
  | course h =>
    refine ⟨Nat.le_trans hle h.bounds.1, fun hq => ?_⟩
    rcases h.due hq with hd | hlt
    · exact hdue hd
    · exact absurd hle (Nat.not_le_of_lt hlt)

end Progress

/-! ### The timelines of a client -/

/-- The generations of a timeline among the alarms asked for. -/
def asked (t : Timeline) (wakes : List Wake) : List Nat :=
  (wakes.filter (·.alarm.timeline = t)).map (·.alarm.generation)

@[simp] theorem asked_nil (t : Timeline) : asked t [] = [] := rfl

@[simp] theorem asked_append (t : Timeline) (vs ws : List Wake) :
    asked t (vs ++ ws) = asked t vs ++ asked t ws := by
  simp [asked]

@[simp] theorem asked_wake (t s : Timeline) (n : Nat) (d : Duration) :
    asked t [s.wake n d] = if s = t then [n] else [] := by
  by_cases h : s = t <;> simp [asked, Timeline.wake, h]

/-- What a display of the countdown expects. -/
@[simp] def Countdown.Display.standing : Countdown.Display → Standing
  | .idle => .lapsed
  | .running _ n => .due n
  | .expired => .spent

/-- What a stage of the buzz window expects. -/
@[simp] def BuzzWindow.Stage.standing : BuzzWindow.Stage → Standing
  | .closed => .spent
  | .blocked n => .due n
  | .open => .spent

namespace Client

/-- Where a timeline of a client stands. -/
@[simp] def position (c : Client) : Timeline → Position
  | .countdown => ⟨c.countdown.generation, c.countdown.display.standing⟩
  | .reading => ⟨c.window.generation, c.window.stage.standing⟩
  | .scores =>
    ⟨c.changes.generation, if c.changes.entries = [] then .spent else .due c.changes.generation⟩
  | .advisory =>
    ⟨c.advisoryGeneration,
      if c.advisory.any (·.kind.isPassing) then .due c.advisoryGeneration else .spent⟩

/-- Every timeline goes from one client to another by a course that asks for some
alarms. -/
def Leads (c : Client) (wakes : List Wake) (c' : Client) : Prop :=
  ∀ t, Course (c.position t) (asked t wakes) (c'.position t)

theorem Leads.refl (c : Client) : c.Leads [] c := fun t => .stay (c.position t)

theorem Leads.trans {c d e : Client} {vs ws : List Wake} (h₁ : c.Leads vs d)
    (h₂ : d.Leads ws e) : c.Leads (vs ++ ws) e := by
  intro t
  rw [asked_append]
  exact (h₁ t).trans (h₂ t)

/-- Nothing leads on when no timeline moves. -/
theorem Leads.of_position_eq {c c' : Client} (h : c'.position = c.position) : c.Leads [] c' := by
  intro t
  rw [h]
  exact .stay _

/-- When one timeline moves and the others stay, that leads on. -/
theorem Leads.of_move {c c' : Client} {wakes : List Wake} (s : Timeline)
    (hs : Move (c.position s) (asked s wakes) (c'.position s))
    (ho : ∀ t, t ≠ s → c'.position t = c.position t ∧ asked t wakes = []) :
    c.Leads wakes c' := by
  intro t
  by_cases h : t = s
  · rw [h]
    exact .of_move hs
  · obtain ⟨hp, ha⟩ := ho t h
    rw [hp, ha]
    exact .stay _

/-! ### Single operations -/

theorem position_of_countdown {t : Timeline} (ht : t ≠ .countdown) (c : Client) (k : Countdown)
    (o : Option Phase) : { c with countdown := k, owner := o }.position t = c.position t := by
  cases t <;> first | rfl | exact absurd rfl ht

theorem position_of_window {t : Timeline} (ht : t ≠ .reading) (c : Client) (w : BuzzWindow) :
    { c with window := w }.position t = c.position t := by
  cases t <;> first | rfl | exact absurd rfl ht

theorem position_of_changes {t : Timeline} (ht : t ≠ .scores) (c : Client) (s : ScoreChanges)
    (l : Latest) (b : Bool) :
    { c with latest := l, changes := s, buzzSpent := b }.position t = c.position t := by
  cases t <;> first | rfl | exact absurd rfl ht

theorem position_of_advisory {t : Timeline} (ht : t ≠ .advisory) (c : Client)
    (a : Option Advisory) (n : Nat) :
    { c with advisory := a, advisoryGeneration := n }.position t = c.position t := by
  cases t <;> first | rfl | exact absurd rfl ht

theorem surface_leads (c : Client) (a : Advisory) : c.Leads (c.surface a).2 (c.surface a).1 := by
  refine .of_move .advisory ?_ ?_
  · by_cases h : a.kind.isPassing = true
    · simpa [surface, h] using Move.arm (c.position .advisory)
    · simpa [surface, h] using Move.renew (c.position .advisory)
  · intro t ht
    refine ⟨position_of_advisory ht c _ _, ?_⟩
    unfold surface
    split <;> simp [ht.symm]

theorem cancelCountdown_leads (c : Client) : c.Leads [] c.cancelCountdown := by
  refine .of_move .countdown (.lapse _) ?_
  intro t ht
  exact ⟨position_of_countdown ht c _ _, rfl⟩

theorem setPaused_leads (c : Client) (paused : Bool) :
    c.Leads [] { c with countdown := c.countdown.setPaused paused } := by
  cases paused with
  | false => exact .of_position_eq rfl
  | true =>
    refine .of_move .countdown (.lapse _) ?_
    intro t ht
    exact ⟨position_of_countdown ht c _ _, rfl⟩

theorem startCountdown_leads (c : Client) (p : Phase) (d : Duration) :
    c.Leads (c.startCountdown p d).2 (c.startCountdown p d).1 := by
  by_cases h : c.countdown.paused = true ∨ d.roundUp = 0
  · rw [startCountdown_of_refused h]
    exact .refl c
  · obtain ⟨hp, hd⟩ : c.countdown.paused = false ∧ d.roundUp ≠ 0 := by simpa using h
    rw [startCountdown_of_accepted hp hd]
    refine .of_move .countdown ?_ ?_
    · simpa [Countdown.tickWake] using Move.arm (c.position .countdown)
    · intro t ht
      exact ⟨position_of_countdown ht c _ _, by simp [Countdown.tickWake, ht.symm]⟩

theorem closeWindow_leads (c : Client) : c.Leads [] { c with window := c.window.close } := by
  by_cases h : c.window.stage = .closed
  · -- a window that is closed already keeps its generation
    refine .of_position_eq (funext fun t => ?_)
    cases t <;> simp [BuzzWindow.close, h]
  · refine .of_move .reading ?_ ?_
    · simpa [BuzzWindow.close, h] using Move.renew (c.position .reading)
    · intro t ht
      exact ⟨position_of_window ht c _, rfl⟩

theorem enterFor_leads (c : Client) (g : Game) (pace : ReadingPace) :
    c.Leads (c.window.enter g pace).2.2 { c with window := (c.window.enter g pace).1 } := by
  refine .of_move .reading ?_ ?_
  · by_cases h : g.firstAttempt = true
    · simpa [BuzzWindow.enter, h] using Move.arm (c.position .reading)
    · simpa [BuzzWindow.enter, h] using Move.renew (c.position .reading)
  · intro t ht
    refine ⟨position_of_window ht c _, ?_⟩
    unfold BuzzWindow.enter
    split <;> simp [ht.symm]

theorem replace_leads (c : Client) (g : Game) (p : Player) :
    c.Leads (c.replace g p).2 (c.replace g p).1 := by
  unfold replace ScoreChanges.observe
  cases h : scoreChanges c.latest.game.players g.players with
  | nil => exact .of_position_eq rfl
  | cons e es =>
    refine .of_move .scores ?_ ?_
    · simpa using Move.arm (c.position .scores)
    · intro t ht
      exact ⟨position_of_changes ht c _ _ _, by simp [ht.symm]⟩

theorem clearChanges_leads (c : Client) : c.Leads [] { c with changes := c.changes.clear } := by
  refine .of_move .scores (.renew _) ?_
  intro t ht
  exact ⟨position_of_changes ht c _ _ _, rfl⟩

theorem dismiss_leads (c : Client) :
    c.Leads [] { c with advisory := none, advisoryGeneration := c.advisoryGeneration + 1 } := by
  refine .of_move .advisory (.renew _) ?_
  intro t ht
  exact ⟨position_of_advisory ht c _ _, rfl⟩

/-! ### Events -/

theorem stopTimers_leads (c : Client) : c.Leads [] c.stopTimers :=
  (cancelCountdown_leads c).trans (closeWindow_leads c.cancelCountdown)

theorem discard_leads (c : Client) : c.Leads [] c.discard :=
  ((stopTimers_leads c).trans (clearChanges_leads c.stopTimers)).trans (.of_position_eq rfl)

theorem halt_leads (c : Client) (e : ProtocolError) : c.Leads (c.halt e).2 (c.halt e).1 := by
  have hstop : c.Leads [] { c.stopTimers with halted := true, disputePrompt := false } :=
    (stopTimers_leads c).trans (.of_position_eq rfl)
  exact hstop.trans (surface_leads _ e.advisory)

theorem settle_leads (c : Client) : c.Leads [] c.settle := by
  -- `settle` closes the window, then cancels the countdown, each of them or not
  let w : Client := if c.latest.phase = .buzz then c else { c with window := c.window.close }
  let o : Client := if w.owner.any (· != c.latest.phase) then w.cancelCountdown else w
  have hw : c.Leads [] w := by
    show c.Leads [] (if _ then _ else _)
    split
    · exact .refl c
    · exact closeWindow_leads c
  have ho : w.Leads [] o := by
    show w.Leads [] (if _ then _ else _)
    split
    · exact cancelCountdown_leads w
    · exact .refl w
  have hd : o.Leads [] c.settle := .of_position_eq rfl
  exact (hw.trans ho).trans hd

theorem keepTime_leads (c : Client) : c.Leads c.keepTime.2 c.keepTime.1 := by
  rcases keepTime_cases c with h | h | ⟨d, h⟩
  · rw [h]
    exact cancelCountdown_leads c
  · rw [h]
    exact .refl c
  · rw [h]
    exact startCountdown_leads c c.latest.phase d

theorem enterWindow_leads (c : Client) : c.Leads c.enterWindow.2 c.enterWindow.1 := by
  have henter : c.Leads (c.window.enter c.latest.game c.settings.pace).2.2 c.entered :=
    (cancelCountdown_leads c).trans
      (enterFor_leads c.cancelCountdown c.latest.game c.settings.pace)
  cases hnew : c.entersAnew with
  | false =>
    rw [enterWindow_of_keeps hnew]
    exact .refl c
  | true =>
    cases hfirst : c.latest.game.firstAttempt with
    | true =>
      rw [enterWindow_of_first hnew hfirst]
      exact henter
    | false =>
      rw [enterWindow_of_later hnew hfirst]
      have hnone : (c.window.enter c.latest.game c.settings.pace).2.2 = [] := by
        simp [BuzzWindow.enter, hfirst]
      rw [hnone] at henter
      exact henter.trans (startCountdown_leads c.entered .buzz c.buzzTime)

theorem enterPhase_leads (c : Client) (o : Outcome) :
    c.Leads (c.enterPhase o).2.2 (c.enterPhase o).1 := by
  unfold enterPhase
  cases c.latest.phase with
  | buzz => exact enterWindow_leads c
  | dispute =>
    have hprompt : c.keepTime.1.Leads [] { c.keepTime.1 with disputePrompt := true } :=
      .of_position_eq rfl
    have h := (keepTime_leads c).trans hprompt
    rwa [List.append_nil] at h
  | error => exact halt_leads c .errorPhase
  | _ => exact keepTime_leads c

theorem applied_leads (c : Client) (g : Game) (p : Player) (advisory : Option String) :
    c.Leads (c.applied g p advisory).2.2 (c.applied g p advisory).1 := by
  have hadvise : ∀ d : Client,
      d.Leads (d.adviseUpdate advisory).2.2 (d.adviseUpdate advisory).1 := by
    intro d
    cases advisory with
    | none => exact .refl d
    | some message => exact surface_leads d ⟨.info, message⟩
  have h := ((replace_leads c g p).trans (hadvise _)).trans (setPaused_leads _ g.paused)
  rwa [List.append_nil] at h

theorem update_leads (c : Client) (g : Game) (p : Player) (advisory : Option String) :
    c.Leads (c.update g p advisory).2.2 (c.update g p advisory).1 := by
  have happly := applied_leads c g p advisory
  cases hp : g.paused with
  | true =>
    rw [update_of_paused hp]
    have hprompt : (c.applied g p advisory).1.stopTimers.Leads []
        { (c.applied g p advisory).1.stopTimers with disputePrompt := false } :=
      .of_position_eq rfl
    have h := (happly.trans (stopTimers_leads _)).trans hprompt
    rwa [List.append_nil, List.append_nil] at h
  | false =>
    rw [update_of_running hp]
    have h := happly.trans (settle_leads _)
    rw [List.append_nil] at h
    exact h.trans (enterPhase_leads _ _)

theorem receive_leads (c : Client) (text : String) :
    c.Leads (c.receive text).2.2 (c.receive text).1 := by
  cases received c text with
  | ignored h =>
    rw [h]
    exact .refl c
  | shown a h =>
    rw [h]
    exact surface_leads c a
  | rejected a h =>
    have hfree : c.Leads [] { c with buzzSpent := false } := .of_position_eq rfl
    rw [h]
    exact hfree.trans (surface_leads _ a)
  | unauthorized a h =>
    have hdiscard : c.Leads [] { c.discard with navigation := some .lobby } :=
      (discard_leads c).trans (.of_position_eq rfl)
    rw [h]
    exact hdiscard.trans (surface_leads _ a)
  | distrusted e h =>
    rw [h]
    exact halt_leads c e
  | updated g p advisory _ _ h =>
    rw [h]
    exact update_leads c g p advisory

theorem leave_leads (c : Client) : c.Leads [] c.leave :=
  ((discard_leads c).trans (dismiss_leads c.discard)).trans (.of_position_eq rfl)

theorem reset_leads (c : Client) : c.Leads [] c.reset :=
  (((discard_leads c).trans (setPaused_leads c.discard false)).trans (dismiss_leads _)).trans
    (.of_position_eq rfl)

/-- **Every event but an alarm leads from one client to the next**, by a course of
each timeline. -/
theorem step_leads (c : Client) {e : Event} (he : ∀ a, e ≠ .alarm a) :
    c.Leads (c.step e).2.2 (c.step e).1 := by
  cases e with
  | alarm a => exact absurd rfl (he a)
  | frame text => exact receive_leads c text
  | action a =>
    obtain ⟨b, hc, hw⟩ := step_action_frame c a
    rw [hc, hw]
    exact .of_position_eq rfl
  | refused r => exact surface_leads c ⟨.rejected, r.message⟩
  | leave => exact leave_leads c
  | reset => exact reset_leads c

/-! ### Alarms -/

theorem countdown_due_iff (c : Client) (n : Nat) :
    (c.position .countdown).standing = .due n ↔ ∃ r, c.countdown.display = .running r n := by
  show c.countdown.display.standing = .due n ↔ _
  cases c.countdown.display <;> simp

theorem reading_due_iff (c : Client) (n : Nat) :
    (c.position .reading).standing = .due n ↔ c.window.stage = .blocked n := by
  show c.window.stage.standing = .due n ↔ _
  cases c.window.stage <;> simp

theorem scores_due_iff (c : Client) (n : Nat) :
    (c.position .scores).standing = .due n ↔
      n = c.changes.generation ∧ c.changes.entries ≠ [] := by
  by_cases h : c.changes.entries = [] <;> simp [h, eq_comm]

theorem advisory_due_iff (c : Client) (n : Nat) :
    (c.position .advisory).standing = .due n ↔
      n = c.advisoryGeneration ∧ c.advisory.any (·.kind.isPassing) = true := by
  by_cases h : c.advisory.any (·.kind.isPassing) = true <;> simp [h, eq_comm]

/-- **An alarm changes something when it is expected**, and only then. -/
theorem alarm_changes_iff (c : Client) (a : Alarm) :
    (c.alarm a).2.1 = true ↔ (c.position a.timeline).standing = .due a.generation := by
  obtain ⟨t, n⟩ := a
  cases t with
  | countdown =>
    rw [countdown_due_iff, ← Countdown.tick_moves_iff]
    rfl
  | reading =>
    rw [reading_due_iff, ← BuzzWindow.elapse_opens_iff]
    cases h : (c.window.elapse n).2 <;> simp [alarm, h]
  | scores =>
    rw [scores_due_iff, ← ScoreChanges.expire_clears_iff]
    rfl
  | advisory =>
    rw [advisory_due_iff]
    by_cases h : n = c.advisoryGeneration ∧ c.advisory.any (·.kind.isPassing) = true
    · simp [alarm, h]
    · simp [alarm, h]

/-- An alarm that is not expected changes nothing at all. -/
theorem alarm_eq_of_not_due {c : Client} {a : Alarm}
    (h : (c.position a.timeline).standing ≠ .due a.generation) : c.alarm a = (c, false, []) := by
  have hf : (c.alarm a).2.1 = false := by
    rw [← Bool.not_eq_true, alarm_changes_iff]
    exact h
  obtain ⟨t, n⟩ := a
  cases t with
  | countdown =>
    have ht : c.countdown.tick n = (c.countdown, false, []) := Countdown.tick_eq_of_not_moves hf
    simp only [alarm, ht]
  | reading =>
    have hn : ¬ c.window.stage = .blocked n := by rwa [← reading_due_iff]
    simp [alarm, BuzzWindow.elapse, hn]
  | scores =>
    have he : c.changes.expire n = (c.changes, false) :=
      ScoreChanges.expire_eq_of_not_clears hf
    simp only [alarm, he]
  | advisory =>
    have hn := mt (advisory_due_iff c n).mpr h
    simp only [alarm, hn, if_false]

/-- The alarm of the reading time that is expected opens the window and starts a
countdown. -/
theorem alarm_reading_of_due {c : Client} {n : Nat} (h : c.window.stage = .blocked n) :
    c.alarm ⟨.reading, n⟩ =
      let s := { c with window := { c.window with stage := .open } }.startCountdown .buzz c.buzzTime
      (s.1, true, s.2) := by
  simp [alarm, BuzzWindow.elapse, h, buzzTime]

/-- The alarm of score changes that is expected clears them. -/
theorem alarm_scores_of_due {c : Client} {n : Nat}
    (h : n = c.changes.generation ∧ c.changes.entries ≠ []) :
    c.alarm ⟨.scores, n⟩ = ({ c with changes := { c.changes with entries := [] } }, true, []) := by
  simp [alarm, ScoreChanges.expire, h]

/-- The alarm of an advisory that is expected takes it down. -/
theorem alarm_advisory_of_due {c : Client} {n : Nat}
    (h : n = c.advisoryGeneration ∧ c.advisory.any (·.kind.isPassing) = true) :
    c.alarm ⟨.advisory, n⟩ = ({ c with advisory := none }, true, []) := by
  simp [alarm, h]

/-- The alarm of the reading time that is expected touches the window, the countdown and
its owner alone. -/
theorem alarm_reading_frame {c : Client} {n : Nat} (h : c.window.stage = .blocked n) :
    ∃ k o, (c.alarm ⟨.reading, n⟩).1 =
      { c with countdown := k, owner := o, window := { c.window with stage := .open } } := by
  obtain ⟨k, o, hs⟩ := startCountdown_frame
    { c with window := { c.window with stage := .open } } .buzz c.buzzTime
  refine ⟨k, o, ?_⟩
  rw [alarm_reading_of_due h]
  exact hs

/-- An alarm touches the countdown and its owner, the window, the entries on display and the
message alone. -/
theorem alarm_frame (c : Client) (a : Alarm) :
    ∃ k o w es m, (c.alarm a).1 =
      { c with
        countdown := k
        owner := o
        window := w
        changes := { c.changes with entries := es }
        advisory := m } := by
  by_cases hdue : (c.position a.timeline).standing = .due a.generation
  · obtain ⟨t, n⟩ := a
    cases t with
    | countdown => exact ⟨_, _, _, _, _, rfl⟩
    | reading =>
      obtain ⟨k, o, h⟩ := alarm_reading_frame ((reading_due_iff c n).mp hdue)
      exact ⟨k, o, _, _, _, h⟩
    | scores =>
      exact ⟨_, _, _, [], _,
        congrArg Prod.fst (alarm_scores_of_due ((scores_due_iff c n).mp hdue))⟩
    | advisory =>
      exact ⟨_, _, _, _, none,
        congrArg Prod.fst (alarm_advisory_of_due ((advisory_due_iff c n).mp hdue))⟩
  · exact ⟨_, _, _, _, _, congrArg Prod.fst (alarm_eq_of_not_due hdue)⟩

/-- The only alarms a countdown asks for are ticks of its own. -/
theorem asked_startCountdown {t : Timeline} (ht : t ≠ .countdown) (c : Client) (p : Phase)
    (d : Duration) : asked t (c.startCountdown p d).2 = [] := by
  by_cases h : c.countdown.paused = true ∨ d.roundUp = 0
  · rw [startCountdown_of_refused h]
    rfl
  · obtain ⟨hp, hd⟩ : c.countdown.paused = false ∧ d.roundUp ≠ 0 := by simpa using h
    rw [startCountdown_of_accepted hp hd]
    simp [Countdown.tickWake, ht.symm]

theorem asked_tick {t : Timeline} (ht : t ≠ .countdown) (k : Countdown) (n : Nat) :
    asked t (k.tick n).2.2 = [] := by
  unfold Countdown.tick
  split
  · split
    · split
      · rfl
      · simp [Countdown.tickWake, ht.symm]
    · rfl
  · rfl

/-- An alarm takes every timeline but its own by a course. -/
theorem alarm_leads_other (c : Client) (a : Alarm) {t : Timeline} (ht : t ≠ a.timeline) :
    Course (c.position t) (asked t (c.alarm a).2.2) ((c.alarm a).1.position t) := by
  by_cases hdue : (c.position a.timeline).standing = .due a.generation
  · obtain ⟨s, n⟩ := a
    cases s with
    | countdown =>
      show Course _ (asked t (c.countdown.tick n).2.2) _
      rw [asked_tick ht]
      exact position_of_countdown ht c (c.countdown.tick n).1 c.owner ▸ .stay _
    | reading =>
      rw [alarm_reading_of_due ((reading_due_iff c n).mp hdue)]
      have h := startCountdown_leads { c with window := { c.window with stage := .open } } .buzz
        c.buzzTime t
      rwa [position_of_window ht] at h
    | scores =>
      rw [alarm_scores_of_due ((scores_due_iff c n).mp hdue)]
      exact position_of_changes ht c _ c.latest c.buzzSpent ▸ .stay _
    | advisory =>
      rw [alarm_advisory_of_due ((advisory_due_iff c n).mp hdue)]
      exact position_of_advisory ht c none c.advisoryGeneration ▸ .stay _
  · rw [alarm_eq_of_not_due hdue]
    exact .stay _

/-- What an expected alarm does to its own timeline. -/
theorem alarm_arrival {c : Client} {a : Alarm}
    (hdue : (c.position a.timeline).standing = .due a.generation) :
    Arrival (c.position a.timeline) a.generation (asked a.timeline (c.alarm a).2.2)
      ((c.alarm a).1.position a.timeline) := by
  obtain ⟨s, n⟩ := a
  cases s with
  | countdown =>
    obtain ⟨r, hr⟩ := (countdown_due_iff c n).mp hdue
    by_cases hlast : r ≤ 1
    · simpa [alarm, Countdown.tick, hr, hlast] using Arrival.last c.countdown.generation n
    · simpa [alarm, Countdown.tick, Countdown.tickWake, hr, hlast]
        using Arrival.again c.countdown.generation n
  | reading =>
    have hb := (reading_due_iff c n).mp hdue
    have hnone : asked .reading (c.alarm ⟨.reading, n⟩).2.2 = [] := by
      rw [alarm_reading_of_due hb]
      exact asked_startCountdown (by decide) _ _ _
    obtain ⟨k, o, hs⟩ := alarm_reading_frame hb
    simp only [hnone, hs, position, hb, BuzzWindow.Stage.standing]
    exact .last c.window.generation n
  | scores =>
    have hn := (scores_due_iff c n).mp hdue
    rw [alarm_scores_of_due hn]
    simpa [hn] using Arrival.last c.changes.generation c.changes.generation
  | advisory =>
    have hn := (advisory_due_iff c n).mp hdue
    rw [alarm_advisory_of_due hn]
    simpa [hn] using Arrival.last c.advisoryGeneration c.advisoryGeneration

/-- **An event lets every timeline make progress**, and nothing else. -/
theorem step_progress (c : Client) (e : Event) (t : Timeline) :
    Progress (c.position t) (asked t (c.step e).2.2) ((c.step e).1.position t) := by
  cases e with
  | alarm a =>
    by_cases ht : t = a.timeline
    · subst ht
      by_cases hdue : (c.position a.timeline).standing = .due a.generation
      · exact .arrival (alarm_arrival hdue)
      · rw [step_alarm, alarm_eq_of_not_due hdue]
        exact .course (.stay _)
    · exact .course (alarm_leads_other c a ht)
  | _ => exact .course (step_leads c (fun _ h => by cases h) t)

end Client

end QuizClient
