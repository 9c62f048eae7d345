import QuizClient.Proofs.Halting
import QuizClient.Proofs.Messages
import QuizClient.Proofs.Publishing

/-!
# What a frame reports

What a frame does is told twice.  Its outcome tells whoever handed the frame over, at once;
the view tells whoever looks afterwards.  The two are put together by different operations,
and a snapshot of the broken phase that comes with a message even shows two messages, one
after the other.  Still the outcome says of the message and of the destination exactly what
became of them, and it asks for a vote exactly when the snapshot leaves one asked for.

## Main definitions

* `Client.Reports` — an outcome says what became of the message and of the destination.

## Main results

* `update_reports`, `receive_reports` — a snapshot, and any frame, reports what it does.
* `alarm_advisory` — when an alarm removes the message.
* `receive_disputePrompt_iff` — which frames ask for a vote.
* `frame_reports_what_is_shown` — **what a frame reports is what is shown.**
-/

namespace QuizClient

namespace Client

/-! ### Messages and destinations -/

/-- An outcome says what became of the message and of the destination: what it names is there
afterwards, and where it names nothing all stays as it was. -/
structure Reports (c : Client) (o : Outcome) (d : Client) : Prop where
  /-- The message. -/
  advisory : d.advisory = o.advisory.or c.advisory
  /-- The destination. -/
  navigation : d.navigation = o.navigate.or c.navigation

theorem Reports.quiet (c : Client) : c.Reports .quiet c := ⟨rfl, rfl⟩

theorem applied_advisory (c : Client) (g : Game) (p : Player) (advisory : Option String) :
    (c.applied g p advisory).1.advisory = (advisory.map (⟨.info, ·⟩)).or c.advisory := by
  cases advisory <;> rfl

/-- Of the phases of play only the broken one has a message of its own, which takes the place
of the one before it. -/
theorem enterPhase_advisory (c : Client) (o : Outcome) :
    (c.enterPhase o).1.advisory
      = if c.latest.phase = .error then some ProtocolError.errorPhase.advisory
        else c.advisory := by
  obtain ⟨k, r, hk⟩ := keepTime_frame c
  by_cases hb : c.latest.phase = .buzz
  · obtain ⟨k, r, w, hw⟩ := enterWindow_frame c
    simp [enterPhase_of_buzz hb, hw, hb]
  by_cases hd : c.latest.phase = .dispute
  · simp [enterPhase_of_dispute hd, hk, hd]
  by_cases he : c.latest.phase = .error
  · simp [enterPhase_of_error he, halt, surface, he]
  · simp [enterPhase_of_other hb hd he, hk, he]

/-- The message after a snapshot is the one that the snapshot reports. -/
theorem update_advisory (c : Client) (g : Game) (p : Player) (advisory : Option String) :
    (c.update g p advisory).1.advisory = (Outcome.ofUpdate g advisory).advisory.or c.advisory := by
  cases hp : g.paused with
  | true =>
    rw [update_of_paused hp]
    show (c.applied g p advisory).1.advisory = _
    simp [applied_advisory, Outcome.ofUpdate, hp]
  | false =>
    have hsettled : (c.applied g p advisory).1.settle.advisory
        = (c.applied g p advisory).1.advisory := by rw [settle_eq]
    rw [update_of_running hp, enterPhase_advisory, hsettled, applied_advisory]
    by_cases he : g.phase = .error <;> simp [Outcome.ofUpdate, hp, he]

/-- **A snapshot reports what it does.** -/
theorem update_reports (c : Client) (g : Game) (p : Player) (advisory : Option String) :
    c.Reports (c.update g p advisory).2.1 (c.update g p advisory).1 := by
  rw [update_outcome]
  refine ⟨update_advisory c g p advisory, ?_⟩
  obtain ⟨_, _, _, _, _, _, _, h⟩ := update_frame c g p advisory
  rw [h]
  rfl

/-- **Every frame reports what it does.** -/
theorem receive_reports (c : Client) (text : String) :
    c.Reports (c.receive text).2.1 (c.receive text).1 := by
  cases received c text with
  | ignored h =>
    rw [h]
    exact .quiet c
  | shown a h =>
    rw [h]
    exact ⟨rfl, rfl⟩
  | rejected a h =>
    rw [h]
    exact ⟨rfl, rfl⟩
  | unauthorized a h =>
    rw [h]
    exact ⟨rfl, rfl⟩
  | distrusted e h =>
    rw [h]
    exact ⟨rfl, rfl⟩
  | updated g p advisory _ _ h =>
    rw [h]
    exact update_reports c g p advisory

/-- **When an alarm removes the message**: it is the one asked for by a message that passes. -/
theorem alarm_advisory (c : Client) (a : Alarm) :
    (c.alarm a).1.advisoryGeneration = c.advisoryGeneration ∧
      (c.alarm a).1.advisory =
        if c.advisory.any (·.kind.isPassing) = true ∧ a = ⟨.advisory, c.advisoryGeneration⟩
        then none else c.advisory := by
  obtain ⟨k, o, w, es, m, hframe⟩ := alarm_frame c a
  refine ⟨by rw [hframe], ?_⟩
  by_cases hdue : (c.position a.timeline).standing = .due a.generation
  · obtain ⟨t, n⟩ := a
    cases t with
    | countdown =>
      rw [if_neg (by simp)]
      rfl
    | reading =>
      obtain ⟨k, o, h⟩ := alarm_reading_frame ((reading_due_iff c n).mp hdue)
      rw [h, if_neg (by simp)]
    | scores =>
      rw [if_neg (by simp)]
      rfl
    | advisory =>
      obtain ⟨rfl, hpassing⟩ := (advisory_due_iff c n).mp hdue
      rw [alarm_advisory_of_due ⟨rfl, hpassing⟩, if_pos ⟨hpassing, rfl⟩]
  · rw [alarm_eq_of_not_due hdue, if_neg]
    rintro ⟨hpassing, rfl⟩
    exact hdue ((advisory_due_iff c _).mpr ⟨rfl, hpassing⟩)

/-! ### The vote on a challenged ruling -/

/-- What is no snapshot asks for no vote. -/
theorem take_disputePrompt_of_not_update {c : Client} {i : Inbound}
    (hu : ∀ g p advisory, i ≠ .update g p advisory) : (c.take i).2.1.disputePrompt = false := by
  by_cases hf : ∀ code message, i ≠ .failure .unauthorized code message
  · obtain ⟨ms, r, h⟩ := Inbound.exists_tells hu hf
    rw [take_of_tells h]
  · push Not at hf
    obtain ⟨code, message, rfl⟩ := hf
    rfl

/-- **A frame asks for a vote** when it is a snapshot that is taken over and leaves one asked
for, and only then. -/
theorem receive_disputePrompt_iff (c : Client) (text : String) :
    (c.receive text).2.1.disputePrompt = true ↔
      c.halted = false ∧ (∃ g p advisory, Inbound.ofText text = .ok (.update g p advisory)) ∧
        (c.receive text).1.disputePrompt = true := by
  cases hh : c.halted with
  | true => simp [receive_of_halted hh, Outcome.quiet]
  | false =>
    cases hi : Inbound.ofText text with
    | error e => simp [receive_of_error hh hi, Outcome.advise]
    | ok i =>
      rw [receive_of_ok hh hi]
      by_cases hu : ∀ g p advisory, i ≠ .update g p advisory
      · simp [take_disputePrompt_of_not_update hu, hu]
      · push Not at hu
        obtain ⟨g, p, advisory, rfl⟩ := hu
        simp [take, update_outcome, Outcome.ofUpdate, update_disputePrompt]

/-! ### The main result -/

/-- **What a frame reports is what is shown**, in every run.  A message that the outcome has
is the message shown afterwards, and without one the message shown stays.  The outcome takes
the player elsewhere when the session goes on and the frame refuses it, and only then; the
view shows that destination afterwards, and any other frame leaves the one shown.  The outcome
asks for a vote on a challenged ruling when the frame is a snapshot that is taken over and the
view asks for one afterwards, and only then; and at all times the view asks for one exactly
while the session goes on and the latest snapshot is of that phase and not paused. -/
theorem frame_reports_what_is_shown (settings : Settings) (es : List Event) :
    let c := ((fresh settings).run es).1
    (∀ text,
      let o := (c.receive text).2.1
      let v := (c.receive text).1.view
      (∀ a, o.advisory = some a → v.advisory = some a) ∧
      (o.advisory = none → v.advisory = c.view.advisory) ∧
      (o.navigate.isSome = true ↔ c.halted = false ∧
        ∃ code message, Inbound.ofText text = .ok (.failure .unauthorized code message)) ∧
      (∀ d, o.navigate = some d → v.navigate = some d) ∧
      (o.navigate = none → v.navigate = c.view.navigate) ∧
      (o.disputePrompt = true ↔ c.halted = false ∧
        (∃ g p advisory, Inbound.ofText text = .ok (.update g p advisory)) ∧
        v.disputePrompt = true)) ∧
    (c.view.disputePrompt = true ↔
      c.halted = false ∧ c.latest.game.paused = false ∧ c.latest.phase = .dispute) := by
  intro c
  refine ⟨fun text => ?_, prompted_run settings es⟩
  obtain ⟨hadvisory, hnavigation⟩ := receive_reports c text
  intro o v
  refine ⟨fun a ha => ?_, fun hnone => ?_, receive_navigate_iff c text, fun d hd => ?_,
    fun hnone => ?_, receive_disputePrompt_iff c text⟩
  · exact hadvisory.trans (by rw [ha]; rfl)
  · exact hadvisory.trans (by rw [hnone]; rfl)
  · exact hnavigation.trans (by rw [hd]; rfl)
  · exact hnavigation.trans (by rw [hnone]; rfl)

/-- A frame with a message and a snapshot of a phase. -/
def partingFrame (p : Phase) : String :=
  s!"\x7b\"code\":4100,\"message\":\"bye\",\"game\":\x7b\"state\":{p.code},\"round\":0,"
    ++ "\"players\":[]\x7d,\"curPlayer\":\x7b\"id\":\"a\"\x7d\x7d"

/-- A snapshot of the broken phase that comes with a message shows two messages.  The second
is the one to report and the one on display, and the vote asked for before is gone from both. -/
theorem second_message_reported :
    let c := ((fresh .default).run [.frame (partingFrame .dispute)]).1
    let r := c.receive (partingFrame .error)
    c.view.disputePrompt = true ∧ r.2.1.advisory = some ProtocolError.errorPhase.advisory ∧
      r.1.view.advisory = some ProtocolError.errorPhase.advisory ∧
      r.2.1.disputePrompt = false ∧ r.1.view.disputePrompt = false := by
  obtain ⟨hasked, hfatal, hgone⟩ :
      ((fresh .default).run [.frame (partingFrame .dispute)]).1.view.disputePrompt = true ∧
      (((fresh .default).run [.frame (partingFrame .dispute)]).1.receive
        (partingFrame .error)).2.1.advisory = some ProtocolError.errorPhase.advisory ∧
      (((fresh .default).run [.frame (partingFrame .dispute)]).1.receive
        (partingFrame .error)).1.view.disputePrompt = false := by decide +kernel
  obtain ⟨hframes, -⟩ := frame_reports_what_is_shown .default [.frame (partingFrame .dispute)]
  obtain ⟨hshown, -, -, -, -, hvote⟩ := hframes (partingFrame .error)
  refine ⟨hasked, hfatal, hshown _ hfatal, Bool.eq_false_iff.mpr fun ho => ?_, hgone⟩
  exact Bool.eq_false_iff.mp hgone (hvote.mp ho).2.2

end Client

end QuizClient
