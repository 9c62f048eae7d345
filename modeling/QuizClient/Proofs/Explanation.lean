import QuizClient.Proofs.Reports

/-!
# Why a session is halted

A frame that halts a session leaves a fatal message which says why.  There is room for one
message only, and the last one written is shown.  While the session is halted no frame and no
alarm writes one, and a fatal message does not pass by itself.  But the refusal of an action
may be shown, as whoever runs the client does with every refusal; it then takes the place of
the explanation, and passes like any other refusal, with nothing to come back after it.

## Main definitions

* `Client.HaltedBy` — an event halts a session, for an error.
* `Event.WritesMessage` — an event that writes or removes the message of a halted session.

## Main results

* `step_halted_iff` — which events halt a session.
* `Stopped.run_advisory` — the message of a halted session that nothing writes.
* `explanation_until_noted` — **a halted session says why, until a refusal is shown.**
-/

namespace QuizClient

/-- An event that writes or removes the message of a halted session: a refusal is shown, the
player leaves or the session starts over. -/
def Event.WritesMessage : Event → Prop
  | .refused _ | .leave | .reset => True
  | .frame _ | .alarm _ | .action _ => False

/-- Nothing writes a message when no refusal is shown and nobody leaves or starts over. -/
theorem Event.not_writesMessage {es : List Event} (hleave : .leave ∉ es) (hreset : .reset ∉ es)
    (hnone : ∀ r, .refused r ∉ es) : ∀ e ∈ es, ¬ e.WritesMessage := by
  intro e he hwrites
  cases e with
  | refused r => exact hnone r he
  | leave => exact hleave he
  | reset => exact hreset he
  | frame _ => exact hwrites
  | alarm _ => exact hwrites
  | action _ => exact hwrites

namespace Client

/-! ### Becoming halted -/

/-- An event halts a session that goes on, for an error. -/
inductive HaltedBy (c : Client) : Event → ProtocolError → Prop
  /-- A frame comes that cannot be trusted. -/
  | distrusted {text : String} {err : ProtocolError} (hh : c.halted = false)
      (hi : Inbound.ofText text = .error err) : HaltedBy c (.frame text) err
  /-- A snapshot of the broken phase comes that is not paused. -/
  | broken {text : String} {g : Game} {p : Player} {advisory : Option String}
      (hh : c.halted = false) (hi : Inbound.ofText text = .ok (.update g p advisory))
      (hp : g.paused = false) (hphase : g.phase = .error) : HaltedBy c (.frame text) .errorPhase

/-- What halts a session leaves it halted, with a message that says why. -/
theorem HaltedBy.explained {c : Client} {e : Event} {err : ProtocolError} (h : c.HaltedBy e err) :
    (c.step e).1.halted = true ∧ (c.step e).1.advisory = some err.advisory := by
  cases h with
  | distrusted hh hi =>
    rw [step_frame, receive_of_error hh hi]
    exact ⟨rfl, rfl⟩
  | broken hh hi hp hphase =>
    rw [step_frame, receive_of_ok hh hi]
    simp [take, update_halted, update_advisory, Outcome.ofUpdate, hp, hphase]

/-- **Which events halt a session** that goes on. -/
theorem step_halted_iff {c : Client} (hh : c.halted = false) (e : Event) :
    (c.step e).1.halted = true ↔ ∃ err, c.HaltedBy e err := by
  refine ⟨fun hhalted => ?_, fun ⟨err, herr⟩ => herr.explained.1⟩
  cases e with
  | frame text =>
    cases (receive_halted_iff hh text).mp hhalted with
    | distrusted err hi => exact ⟨err, .distrusted hh hi⟩
    | broken g p advisory hi hp hphase => exact ⟨.errorPhase, .broken hh hi hp hphase⟩
  | alarm a =>
    obtain ⟨k, o, w, es, m, h⟩ := alarm_frame c a
    rw [step_alarm, h, hh] at hhalted
    cases hhalted
  | action a =>
    obtain ⟨b, h, -⟩ := step_action_frame c a
    rw [h, hh] at hhalted
    cases hhalted
  | refused r =>
    cases hh.symm.trans hhalted
  | leave =>
    cases hh.symm.trans hhalted
  | reset => cases hhalted

/-! ### The message of a halted session -/

namespace Stopped

variable {c : Client}

/-- In a halted session an event that writes no message removes the one there is if it is its
alarm, and does nothing else to it. -/
theorem step_advisory (h : c.Stopped) {e : Event} (he : ¬ e.WritesMessage) :
    (c.step e).1.advisoryGeneration = c.advisoryGeneration ∧
      (c.step e).1.advisory =
        if c.advisory.any (·.kind.isPassing) = true ∧ e = .alarm ⟨.advisory, c.advisoryGeneration⟩
        then none else c.advisory := by
  cases e with
  | frame text =>
    rw [Client.step_frame, h.receive_eq]
    simp
  | alarm a => simpa using alarm_advisory c a
  | action a =>
    obtain ⟨b, hb, -⟩ := step_action_frame c a
    rw [hb]
    simp
  | refused r => exact absurd trivial he
  | leave => exact absurd trivial he
  | reset => exact absurd trivial he

theorem ne_reset_of_not_writes {e : Event} (he : ¬ e.WritesMessage) : e ≠ .reset := by
  rintro rfl
  exact he trivial

/-- **The message of a halted session that nothing writes** stays until its own alarm comes
back, if it asked for one. -/
theorem run_advisory (h : c.Stopped) {es : List Event} (hes : ∀ e ∈ es, ¬ e.WritesMessage) :
    (c.run es).1.advisory =
      if c.advisory.any (·.kind.isPassing) = true ∧ .alarm ⟨.advisory, c.advisoryGeneration⟩ ∈ es
      then none else c.advisory := by
  induction es generalizing c with
  | nil => simp
  | cons e es ih =>
    have he := hes e List.mem_cons_self
    obtain ⟨hgeneration, hadvisory⟩ := h.step_advisory he
    have hnext : (c.step e).1.Stopped := (h.step (ne_reset_of_not_writes he)).1
    rw [run_cons, ih hnext fun f hf => hes f (List.mem_cons_of_mem e hf), hgeneration, hadvisory]
    -- once the message is removed there is none left to remove
    by_cases hnow : c.advisory.any (·.kind.isPassing) = true ∧
        e = .alarm ⟨.advisory, c.advisoryGeneration⟩
    · simp [hnow]
    · rw [if_neg hnow]
      by_cases hpassing : c.advisory.any (·.kind.isPassing) = true
      · have hother : e ≠ .alarm ⟨.advisory, c.advisoryGeneration⟩ := fun he => hnow ⟨hpassing, he⟩
        simp [hpassing, hother.symm]
      · simp [hpassing]

/-- A refusal that is shown in a halted session stays until its own alarm comes back, and then
no message is shown. -/
theorem run_advisory_of_refused (h : c.Stopped) (r : Refusal) {es : List Event}
    (hes : ∀ e ∈ es, ¬ e.WritesMessage) :
    ((c.step (.refused r)).1.run es).1.advisory =
      if .alarm ⟨.advisory, c.advisoryGeneration + 1⟩ ∈ es then none
      else some ⟨.rejected, r.message⟩ := by
  have hnext : (c.step (.refused r)).1.Stopped := (h.step (by simp)).1
  have hshown : (c.step (.refused r)).1.advisory = some ⟨.rejected, r.message⟩ := rfl
  have hgeneration : (c.step (.refused r)).1.advisoryGeneration = c.advisoryGeneration + 1 := rfl
  rw [hnext.run_advisory hes, hshown, hgeneration]
  simp [AdvisoryKind.isPassing]

end Stopped

/-! ### The main result -/

/-- **A halted session says why, until a refusal is shown**, in every run.  A session that goes
on is halted by a frame that cannot be trusted and by a snapshot of the broken phase that is
not paused, and by nothing else.  From then on, until the player leaves or the session starts
over, the fatal message of that halt is shown for as long as no refusal is: no alarm, no frame
and no action that is merely refused removes it or takes its place.  Once a refusal is shown,
the last one stands in its place, as a passing message like any other, until its own alarm
comes back, and after that no message is shown. -/
theorem explanation_until_noted (settings : Settings) (es : List Event) :
    let c := ((fresh settings).run es).1
    c.halted = false → ∀ e,
      ((c.step e).1.halted = true ↔ ∃ err, c.HaltedBy e err) ∧
      ∀ err, c.HaltedBy e err → ∀ later, .leave ∉ later → .reset ∉ later →
        let b := (c.step e).1
        let d := (b.run later).1
        (∀ a, d.prepare a = (d, .error .halted)) ∧
        ((∀ r, .refused r ∉ later) → d.view.advisory = some ⟨.fatal, err.message⟩) ∧
        ∀ pre r post, later = pre ++ .refused r :: post → (∀ s, .refused s ∉ post) →
          let n := (b.run pre).1.advisoryGeneration + 1
          ((b.run pre).1.step (.refused r)).2.2
            = [Timeline.advisory.wake n settings.advisoryWindow] ∧
          d.view.advisory =
            if .alarm ⟨.advisory, n⟩ ∈ post then none else some ⟨.rejected, r.message⟩ := by
  intro c hh e
  refine ⟨step_halted_iff hh e, fun err herr later hleave hreset => ?_⟩
  intro b d
  obtain ⟨hhalted, hadvisory⟩ := herr.explained
  have hb : b.Stopped := by
    have hstopped := stopped_of_halted settings (es ++ [e])
    rw [run_concat] at hstopped
    exact hstopped hhalted
  refine ⟨prepare_of_halted (hb.run hreset).1.halted, fun hnone => ?_, ?_⟩
  · -- a fatal message does not pass
    have hfatal : ¬ (b.advisory.any (·.kind.isPassing) = true ∧
        .alarm ⟨.advisory, b.advisoryGeneration⟩ ∈ later) := by
      rw [hadvisory]
      rintro ⟨⟨⟩, -⟩
    show d.advisory = _
    rw [hb.run_advisory (Event.not_writesMessage hleave hreset hnone), if_neg hfatal, hadvisory]
    rfl
  · rintro pre r post rfl hnone
    have hpre : .reset ∉ pre := fun h => hreset (List.mem_append_left _ h)
    have hsub : post ⊆ pre ++ .refused r :: post := fun f hf =>
      List.mem_append_right _ (List.mem_cons_of_mem _ hf)
    have hpost : ∀ f ∈ post, ¬ f.WritesMessage :=
      Event.not_writesMessage (fun h => hleave (hsub h)) (fun h => hreset (hsub h)) hnone
    have hsettings : (b.run pre).1.settings = settings := by
      have hrun := settings_run settings (es ++ e :: pre)
      rwa [run_append, run_cons] at hrun
    refine ⟨?_, ?_⟩
    · rw [← hsettings]
      rfl
    · show d.advisory = _
      have hd : d = ((((b.run pre).1.step (.refused r)).1).run post).1 := by
        simp only [d, run_append, run_cons]
      rw [hd]
      exact (hb.run hpre).1.run_advisory_of_refused r hpost

/-- A frame that is no envelope halts a new session. -/
theorem haltedBy_ping : (fresh .default).HaltedBy (.frame "ping") (.malformed .malformed) :=
  .distrusted rfl (by decide +kernel)

/-- The explanation stays through an alarm, a frame and an action; the refusal of that action,
once it is shown, is not removed by an older alarm, and leaves nothing when its own comes. -/
theorem explanation_stays_then_passes :
    let b := ((fresh .default).step (.frame "ping")).1
    let quiet : List Event :=
      [.alarm ⟨.advisory, 1⟩, .frame (pickFrame false), .action (.pause true)]
    (b.run quiet).1.view.advisory = some ⟨.fatal, "malformed envelope: invalid JSON"⟩ ∧
    (b.run (quiet ++ [.refused .halted, .alarm ⟨.advisory, 1⟩])).1.view.advisory
      = some ⟨.rejected, "session halted; reconnect to continue"⟩ ∧
    (b.run (quiet ++ [.refused .halted, .alarm ⟨.advisory, 2⟩])).1.view.advisory = none := by
  intro b quiet
  have hgeneration : (b.run quiet).1.advisoryGeneration = 1 := by decide +kernel
  have hstays := (explanation_until_noted .default [] rfl (.frame "ping")).2 _ haltedBy_ping
  obtain ⟨-, hfatal, -⟩ := hstays quiet (by simp [quiet]) (by simp [quiet])
  obtain ⟨-, -, hshown⟩ := hstays (quiet ++ [.refused .halted, .alarm ⟨.advisory, 1⟩])
    (by simp [quiet]) (by simp [quiet])
  obtain ⟨-, -, hgone⟩ := hstays (quiet ++ [.refused .halted, .alarm ⟨.advisory, 2⟩])
    (by simp [quiet]) (by simp [quiet])
  refine ⟨hfatal (by simp [quiet]), ?_, ?_⟩
  · refine (hshown quiet .halted _ rfl (by simp)).2.trans (if_neg ?_)
    show Event.alarm ⟨.advisory, (b.run quiet).1.advisoryGeneration + 1⟩ ∉ _
    rw [hgeneration]
    decide
  · refine (hgone quiet .halted _ rfl (by simp)).2.trans (if_pos ?_)
    show Event.alarm ⟨.advisory, (b.run quiet).1.advisoryGeneration + 1⟩ ∈ _
    rw [hgeneration]
    decide

/-- The explanation does not outlast a refusal that is shown: while the session is still
halted, and nobody left or started over, the refusal stands in its place, and once that passed
no message is shown at all. -/
theorem explanation_replaced :
    let b := ((fresh .default).step (.frame "ping")).1
    let d := (b.run [.action (.pause true), .refused .halted]).1
    (fresh .default).HaltedBy (.frame "ping") (.malformed .malformed) ∧
    b.view.advisory = some ⟨.fatal, (ProtocolError.malformed .malformed).message⟩ ∧
    b.prepare (.pause true) = (b, .error .halted) ∧ d.view.halted = true ∧
    d.view.advisory = some ⟨.rejected, "session halted; reconnect to continue"⟩ ∧
    (d.step (.alarm ⟨.advisory, d.advisoryGeneration⟩)).1.view.advisory = none := by
  refine ⟨haltedBy_ping, ?_, prepare_of_halted ?_ _, ?_, ?_, ?_⟩
  all_goals decide +kernel

end Client

end QuizClient
