import QuizClient.Proofs.Ownership
import QuizClient.Proofs.Snapshots
import QuizClient.Settings.Document

/-!
# Timing in the final round

In the final round answering and wagering are timed only from the snapshot on that says
so, with a time of their own.  A countdown that is shown then was started by such a
snapshot, with one exception: a countdown belongs to a phase and not to a round, so one
that was started for the same phase before the final round goes on in it.

## Main definitions

* `FinalStage` — answering or wagering in the final round.
* `Client.PlaysFinal` — the latest snapshot is of such a stage.
* `Client.Stretch` — since a snapshot only one stage was played, with one countdown.
* `Client.StartedBy`, `Client.CarriedOver` — where the countdown of a stretch comes from.

## Main results

* `timing_final` — what a stage of the final round asks of the countdown.
* `final_step` — what one event does to the countdown of such a stage.
* `final_round_countdown` — **where a countdown in the final round comes from.**
* `carried_into_final_answer` — the exception is met.
-/

namespace QuizClient

/-- The parts of the final round that are timed. -/
inductive FinalStage where
  /-- The players answer the final clue. -/
  | answer
  /-- The players wager on it. -/
  | wager
  deriving DecidableEq, Repr

namespace FinalStage

/-- The phase of play. -/
def phase : FinalStage → Phase
  | answer => .answer
  | wager => .wager

/-- Whether the time starts with a snapshot. -/
def hint : FinalStage → Game → Bool
  | answer, g => g.startsFinalAnswer
  | wager, g => g.startsFinalWager

/-- The time there is. -/
def time (limits : TimeLimits) : FinalStage → Game → Duration
  | answer, g => g.finalAnswerTime.getD limits.finalAnswer
  | wager, g => g.finalWagerTime.getD limits.finalWager

theorem phase_ne_buzz (f : FinalStage) : f.phase ≠ .buzz := by cases f <;> decide

end FinalStage

namespace Client

/-- The latest snapshot is of a stage of the final round and not paused, and the session
goes on. -/
structure PlaysFinal (c : Client) (f : FinalStage) : Prop where
  /-- The session goes on. -/
  unhalted : c.halted = false
  /-- The game is not paused. -/
  unpaused : c.latest.game.paused = false
  /-- It is the final round. -/
  round : c.latest.round = .final
  /-- It is the phase of that stage. -/
  phase : c.latest.phase = f.phase

theorem playsFinal_iff (c : Client) (f : FinalStage) :
    c.PlaysFinal f ↔ c.halted = false ∧ c.latest.game.paused = false ∧
      c.latest.round = .final ∧ c.latest.phase = f.phase :=
  ⟨fun h => ⟨h.unhalted, h.unpaused, h.round, h.phase⟩, fun ⟨hh, hp, hr, hf⟩ => ⟨hh, hp, hr, hf⟩⟩

instance (c : Client) (f : FinalStage) : Decidable (c.PlaysFinal f) :=
  decidable_of_iff _ (c.playsFinal_iff f).symm

/-- What happens to a client from a snapshot on: nothing but one stage of the final round is
played, with one countdown. -/
structure Stretch (b : Client) (f : FinalStage) (text : String) (g : Game)
    (later : List Event) : Prop where
  /-- The frame tells the snapshot. -/
  read : ∃ player advisory, Inbound.ofText text = .ok (.update g player advisory)
  /-- Nothing but that stage is played. -/
  plays : ∀ mid, mid <+: later → (b.run (.frame text :: mid)).1.PlaysFinal f
  /-- No other countdown starts. -/
  same : ∀ mid, mid <+: later → (b.run (.frame text :: mid)).1.countdown.generation
    = (b.step (.frame text)).1.countdown.generation

/-- The snapshot says that the time starts, and starts the countdown with the time of the
stage. -/
structure StartedBy (b : Client) (f : FinalStage) (text : String) (g : Game)
    (later : List Event) : Prop extends Stretch b f text g later where
  /-- It says so. -/
  hinted : f.hint g = true
  /-- A countdown of that time starts. -/
  started : (b.step (.frame text)).1.countdown.display
    = .running (f.time b.settings.limits g).roundUp (b.countdown.generation + 1)
  /-- It is a new one. -/
  renewed : (b.step (.frame text)).1.countdown.generation = b.countdown.generation + 1

/-- The snapshot leaves a countdown alone that was shown for the same phase before the final
round. -/
structure CarriedOver (b : Client) (f : FinalStage) (text : String) (g : Game)
    (later : List Event) : Prop extends Stretch b f text g later where
  /-- The countdown was shown for that phase. -/
  owner : b.owner = some f.phase
  /-- It was not the final round. -/
  earlier : b.latest.round ≠ .final
  /-- The countdown goes on as it is. -/
  carried : (b.step (.frame text)).1.countdown.display = b.countdown.display
  /-- It is the same one. -/
  kept : (b.step (.frame text)).1.countdown.generation = b.countdown.generation

/-! ### One event -/

/-- **What a stage of the final round asks of the countdown**: to start when the snapshot
says so, and to stay as it is otherwise. -/
theorem timing_final {c : Client} {f : FinalStage} (hr : c.latest.round = .final)
    (hf : c.latest.phase = f.phase) :
    c.timing = if f.hint c.latest.game then
      .restart (f.time c.settings.limits c.latest.game) else .keep := by
  have hphase : c.latest.game.phase = f.phase := hf
  have hround : c.latest.game.round = .final := hr
  unfold timing
  simp only [hphase, hround]
  cases f <;> rfl

/-- A countdown is asked for in the final round only by a snapshot that says so, and of the
time of the stage. -/
theorem Asks.of_final {c : Client} {f : FinalStage} (h : c.PlaysFinal f) {p : Phase}
    {d : Duration} (ha : c.Asks p d) :
    f.hint c.latest.game = true ∧ d = f.time c.settings.limits c.latest.game := by
  obtain ⟨hp, ha⟩ := ha
  have hbuzz : p ≠ .buzz := by
    rw [hp, h.phase]
    exact f.phase_ne_buzz
  rw [timing_final h.round h.phase] at ha
  cases hhint : f.hint c.latest.game with
  | true =>
    rw [hhint] at ha
    rcases ha with ha | ha | ⟨hb, -⟩
    · cases ha
    · cases ha
      exact ⟨rfl, rfl⟩
    · exact absurd hb hbuzz
  | false =>
    rw [hhint] at ha
    rcases ha with ha | ha | ⟨hb, -⟩
    · cases ha
    · cases ha
    · exact absurd hb hbuzz

theorem Stretch.of_step {b : Client} {f : FinalStage} {text : String} {g : Game}
    (hi : ∃ player advisory, Inbound.ofText text = .ok (.update g player advisory))
    (hf : (b.step (.frame text)).1.PlaysFinal f) : Stretch b f text g [] := by
  refine ⟨hi, fun mid hmid => ?_, fun mid hmid => ?_⟩
  · rw [List.prefix_nil.mp hmid]
    exact hf
  · rw [List.prefix_nil.mp hmid]
    rfl

theorem Stretch.concat {b : Client} {f : FinalStage} {text : String} {g : Game}
    {later : List Event} {e : Event} (h : Stretch b f text g later)
    (hf : (b.run (.frame text :: (later ++ [e]))).1.PlaysFinal f)
    (hsame : (b.run (.frame text :: (later ++ [e]))).1.countdown.generation
      = (b.run (.frame text :: later)).1.countdown.generation) :
    Stretch b f text g (later ++ [e]) :=
  ⟨h.read, forall_prefix_concat h.plays hf,
    forall_prefix_concat h.same (hsame.trans (h.same later (List.prefix_refl later)))⟩

/-- **What one event does to the countdown of a stage of the final round**, if one is shown
after it: the event is a snapshot that starts it, or it was there before. -/
theorem final_step {c : Client} {e : Event} (hd : (c.step e).1.Owned) {f : FinalStage}
    (hf : (c.step e).1.PlaysFinal f) (hs : (c.step e).1.owner ≠ none) :
    (∃ text g, e = .frame text ∧ StartedBy c f text g []) ∨
      ((c.step e).1.countdown.generation = c.countdown.generation ∧
        (c.step e).1.owner = c.owner ∧
        ∀ text, e = .frame text →
          (c.step e).1.countdown.display = c.countdown.display) := by
  cases step_countdown c e with
  | ticked r n he _ _ hgeneration howner =>
    refine .inr ⟨hgeneration, howner, fun text ht => ?_⟩
    rw [he] at ht
    cases ht
  | changed hc =>
    cases hc with
    | kept hdisplay hgeneration howner =>
      exact .inr ⟨hgeneration, howner, fun _ _ => hdisplay⟩
    | stopped _ _ howner => exact absurd howner hs
    | started p d hreason _ hdisplay hgeneration howner =>
      cases hreason with
      | @snapshot text g player advisory _ _ hh hi hpause ha =>
        have hlatest : (c.step (.frame text)).1.latest = c.latest.replace g player := by
          rw [step_frame, receive_of_ok hh hi]
          exact update_latest c g player advisory
        have hplays : (c.replace g player).1.PlaysFinal f := by
          obtain ⟨-, -, hround, hphase⟩ := hf
          rw [hlatest] at hround hphase
          exact ⟨hh, hpause, hround, hphase⟩
        obtain ⟨hhint, hd⟩ := Asks.of_final hplays ha
        subst hd
        exact .inl ⟨text, g, rfl, .of_step ⟨player, advisory, hi⟩ hf, hhint, hdisplay, hgeneration⟩
      | reading hb =>
        -- the countdown of a buzz window is admitted in the phase for buzzing only
        have hbuzz := (hd.admitted _ howner).phase
        rw [hf.phase] at hbuzz
        exact absurd hbuzz.symm f.phase_ne_buzz

/-- A countdown that was there before the stage began is one of the same phase, from before
the final round. -/
theorem carried_step {c : Client} (h : c.Owned) {e : Event} (hd : (c.step e).1.Owned)
    {f : FinalStage} (hf : (c.step e).1.PlaysFinal f) (hs : (c.step e).1.owner ≠ none)
    (hc : ¬ c.PlaysFinal f)
    (hgeneration : (c.step e).1.countdown.generation = c.countdown.generation)
    (howner : (c.step e).1.owner = c.owner)
    (hdisplay : ∀ text, e = .frame text → (c.step e).1.countdown.display = c.countdown.display) :
    ∃ text g, e = .frame text ∧ CarriedOver c f text g [] := by
  obtain ⟨p, hp⟩ := Option.ne_none_iff_exists'.mp hs
  obtain rfl : p = f.phase := (hd.admitted p hp).phase.trans hf.phase
  have hown : c.owner = some f.phase := howner.symm.trans hp
  have hadmits := h.admitted _ hown
  have hround : c.latest.round ≠ .final := fun hround =>
    hc ⟨hadmits.unhalted, hadmits.unpaused, hround, hadmits.phase.symm⟩
  -- the round is another one now, so a snapshot told it
  cases brings c e with
  | nothing _ hlatest =>
    exact absurd (hlatest ▸ hf.round) hround
  | oblivion _ _ hlatest =>
    have hblank := hf.round
    rw [hlatest] at hblank
    cases hblank
  | snapshot text g player advisory he _ hi =>
    subst he
    exact ⟨text, g, rfl, .of_step ⟨player, advisory, hi⟩ hf, hown, hround, hdisplay text rfl,
      hgeneration⟩

/-! ### The main result -/

/-- **Where a countdown in the final round comes from**, in every run.  While a stage of the
final round is played, a countdown that is shown was started by a snapshot of that stage
that said so, with the time of the stage, and nothing else was played since and no other
countdown started; or it was shown for the same phase already when the final round began,
and nothing else was played and no other countdown started since then. -/
theorem final_round_countdown (settings : Settings) (es : List Event) {f : FinalStage}
    (hf : ((fresh settings).run es).1.PlaysFinal f)
    (hs : ((fresh settings).run es).1.countdown.remaining ≠ none) :
    ∃ pre text g later, es = pre ++ .frame text :: later ∧
      let b := ((fresh settings).run pre).1
      (StartedBy b f text g later ∨ CarriedOver b f text g later) := by
  induction es using List.reverseRecOn with
  | nil => exact absurd rfl hs
  | append_singleton es e ih =>
    have h : ((fresh settings).run es).1.Owned := owned_run settings es
    have hd : ((fresh settings).run (es ++ [e])).1.Owned := owned_run settings (es ++ [e])
    have howned : ((fresh settings).run (es ++ [e])).1.owner ≠ none :=
      hd.shown_iff.mp ((Countdown.remaining_ne_none_iff _).mp hs)
    rw [run_concat] at hf hs hd howned
    rcases final_step hd hf howned with ⟨text, g, rfl, hstarted⟩ | ⟨hgeneration, howner, hdisplay⟩
    · exact ⟨es, text, g, [], rfl, .inl hstarted⟩
    by_cases hc : ((fresh settings).run es).1.PlaysFinal f
    · -- the stage was played before, and its countdown was shown
      have hshown : ((fresh settings).run es).1.countdown.remaining ≠ none := by
        rw [Countdown.remaining_ne_none_iff, h.shown_iff, ← howner]
        exact howned
      obtain ⟨pre, text, g, later, rfl, hfrom⟩ := ih hc hshown
      have hlater : ∀ {b : Client}, b = ((fresh settings).run pre).1 → Stretch b f text g later →
          Stretch b f text g (later ++ [e]) := by
        rintro b rfl hstretch
        refine hstretch.concat ?_ ?_
        · simpa [run_append] using hf
        · simpa [run_append] using hgeneration
      refine ⟨pre, text, g, later ++ [e], by simp,
        hfrom.imp (fun hstarted => ?_) fun hcarried => ?_⟩
      · exact { hstarted with toStretch := hlater rfl hstarted.toStretch }
      · exact { hcarried with toStretch := hlater rfl hcarried.toStretch }
    · obtain ⟨text, g, rfl, hcarried⟩ := carried_step h hd hf howned hc hgeneration howner hdisplay
      exact ⟨es, text, g, [], rfl, .inr hcarried⟩

/-- A frame that lets the player answer, in a round that a number tells, with or without the
word that the time starts. -/
def answerFrame (round : Nat) (starts : Bool) : String :=
  "\x7b\"code\":200,\"game\":\x7b\"state\":5,\"round\":" ++ toString round
    ++ ",\"players\":[],\"startFinalAnswerCountdown\":" ++ (if starts then "true" else "false")
    ++ "\x7d,\"curPlayer\":\x7b\"id\":\"a\"\x7d\x7d"

/-- The final answer is timed from the snapshot on that says so. -/
theorem final_answer_started :
    let es : List Event := [.frame (answerFrame 2 true), .frame (answerFrame 2 false)]
    ((fresh .default).run es).1.countdown.remaining = some 30 ∧
      ∃ pre text g later, es = pre ++ .frame text :: later ∧
        let b := ((fresh .default).run pre).1
        (StartedBy b .answer text g later ∨ CarriedOver b .answer text g later) := by
  intro es
  obtain ⟨hshown, hplays⟩ : ((fresh .default).run es).1.countdown.remaining = some 30 ∧
      ((fresh .default).run es).1.PlaysFinal .answer := by decide +kernel
  exact ⟨hshown, final_round_countdown .default es hplays (by simp [hshown])⟩

/-- **The exception is met.**  The countdown of an answer in the second round goes on when
the next snapshot is of an answer in the final round, which does not say that the time
starts. -/
theorem carried_into_final_answer :
    let es : List Event := [.frame (answerFrame 1 false), .frame (answerFrame 2 false)]
    let c := ((fresh .default).run es).1
    c.PlaysFinal .answer ∧ c.latest.game.startsFinalAnswer = false ∧
      c.countdown.remaining = some 10 ∧
      ¬ ∃ pre text g later, es = pre ++ .frame text :: later ∧
        StartedBy ((fresh .default).run pre).1 .answer text g later := by
  intro es
  obtain ⟨hplays, hhint, hshown⟩ : ((fresh .default).run es).1.PlaysFinal .answer ∧
      ((fresh .default).run es).1.latest.game.startsFinalAnswer = false ∧
      ((fresh .default).run es).1.countdown.remaining = some 10 := by decide +kernel
  refine ⟨hplays, hhint, hshown, ?_⟩
  rintro ⟨pre, text, g, later, hes, hstarted⟩
  rcases pre with - | ⟨e, - | ⟨e', pre⟩⟩
  · -- the first snapshot is not of the final round
    obtain ⟨htext, -⟩ := List.cons.inj hes
    cases htext
    have hround := (hstarted.plays [] List.nil_prefix).round
    revert hround
    decide +kernel
  · -- the second one starts nothing
    obtain ⟨hfirst, hrest⟩ := List.cons.inj hes
    obtain ⟨htext, -⟩ := List.cons.inj hrest
    cases hfirst
    cases htext
    have hrenewed := hstarted.renewed
    revert hrenewed
    decide +kernel
  · simp [es] at hes

end Client

end QuizClient
