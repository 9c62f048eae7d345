import QuizClient.Proofs.Replacement

/-!
# Pausing and going on

A snapshot that is paused stops every timer and leaves nothing behind: no owner of a
countdown, no clue of a buzz window, no alarm that would still do something.  So the
client is at rest until play goes on, and then the timers are those of a client that has
just been made, whatever the pause interrupted and whatever happened meanwhile.

## Main results

* `Resting.resume` — clients at rest make the same of the timers when play goes on.
* `pause_interrupts` — **a pause stops the timers, and going on starts afresh.**
-/

namespace QuizClient

namespace Client

theorem entersAnew_of_closed {c : Client} (h : c.window.stage = .closed) : c.entersAnew = true := by
  simp [entersAnew, BuzzWindow.isFor, h]

namespace Resting

variable {c d : Client}

/-- Taking over a snapshot and leaving the phase before it keeps a client at rest. -/
theorem settle (h : c.Resting) (g : Game) (p : Player) (advisory : Option String) :
    (c.applied g p advisory).1.settle.Resting := by
  have hidle : (c.countdown.setPaused g.paused).display = .idle := by
    cases g.paused with
    | true => rfl
    | false => exact h.idle
  refine ⟨?_, ?_, ?_⟩
  · rw [settle_countdown, applied_countdown]
    split
    · rfl
    · exact hidle
  · simp [h.unowned]
  · rw [settle_window, applied_window]
    split
    · exact h.closed
    · rfl

/-- **Clients at rest make the same of the timers when play goes on**, if their settings
agree. -/
theorem resume (hc : c.Resting) (hd : d.Resting) (hs : c.settings = d.settings)
    (hh : c.halted = d.halted) {g : Game} (hp : g.paused = false) (p : Player)
    (advisory : Option String) :
    SameTimers ((c.update g p advisory).1, (c.update g p advisory).2.2)
      ((d.update g p advisory).1, (d.update g p advisory).2.2) := by
  have hagrees := settle_agrees hs hh hp p advisory
  have hcrest := hc.settle g p advisory
  have hdrest := hd.settle g p advisory
  refine update_same_of_enterPhase hp fun o => ?_
  refine enterPhase_same hagrees (fun _ => ?_) (fun _ => ?_) o o
  · exact ⟨entersAnew_of_closed hcrest.closed, entersAnew_of_closed hdrest.closed⟩
  · exact keepTime_same hagrees (hcrest.same hdrest rfl rfl)

end Resting

/-- **A pause stops the timers, and going on starts afresh**, in every run.  From a snapshot
that is paused until one that is not, no countdown is shown, there is no buzz window, and
no timer is asked for.  The snapshot with which play goes on then makes of the timers what
it makes of them in a client that was just made: the countdown it shows, whose it is, the
buzz window and the alarms that are asked for, by kind and delay. -/
theorem pause_interrupts (settings : Settings) (es : List Event) {g₀ : Game}
    (hp₀ : g₀.paused = true) (p₀ : Player) (advisory₀ : Option String) {mid : List Event}
    (hmid : ∀ e ∈ mid, ¬ e.Resumes) :
    let b := ((fresh settings).run es).1.take (.update g₀ p₀ advisory₀)
    timersAsked b.2.2 = [] ∧
    (∀ pre, pre <+: mid →
      let d := (b.1.run pre).1
      d.countdown.remaining = none ∧ d.window.status = .closed ∧
        timersAsked (b.1.run pre).2 = []) ∧
    ∀ g p advisory, g.paused = false → (b.1.run mid).1.halted = false →
      let r := (b.1.run mid).1.take (.update g p advisory)
      let n := (fresh settings).take (.update g p advisory)
      r.1.view.countdown = n.1.view.countdown ∧ r.1.owner = n.1.owner ∧
        r.1.view.window = n.1.view.window ∧ timersAsked r.2.2 = timersAsked n.2.2 := by
  intro b
  have hb : b = ((fresh settings).run es).1.update g₀ p₀ advisory₀ := rfl
  obtain ⟨hrest, hasked⟩ := Resting.of_paused ((fresh settings).run es).1 hp₀ p₀ advisory₀
  rw [← hb] at hrest hasked
  refine ⟨hasked, fun pre hpre => ?_, fun g p advisory hp hh => ?_⟩
  · obtain ⟨hpaused, hnone⟩ := hrest.run fun e he => hmid e (hpre.subset he)
    exact ⟨hpaused.remaining_eq, hpaused.status_eq, hnone⟩
  · obtain ⟨hpaused, -⟩ := hrest.run hmid
    have hnew : (fresh settings).Resting := ⟨rfl, rfl, rfl⟩
    have hsettings : (b.1.run mid).1.settings = settings := by
      have hrun : (b.1.run mid).1.settings = b.1.settings := congrArg Prod.fst (setup_run b.1 mid)
      rw [hrun, hb, update_settings, settings_run]
    obtain ⟨hshown, howner, hstatus, halarms⟩ :=
      hpaused.resume hnew hsettings hh hp p advisory
    exact ⟨hshown, howner, hstatus, halarms⟩

/-- The frame that pauses the choice of a clue does not let play go on. -/
theorem not_resumes_pickFrame : ¬ Event.Resumes (.frame (pickFrame true)) := by
  rintro ⟨g, p, advisory, hi, hp⟩
  have hread : (Inbound.ofText (pickFrame true)).toOption.all
      (fun i => match i with | .update g _ _ => g.paused | _ => true) = true := by
    decide +kernel
  rw [hi] at hread
  simp [Except.toOption, hp] at hread

/-- A pause in the middle of a countdown, during which its tick comes back and the pause is
sent once more: when play goes on the countdown is shown in full. -/
theorem resumed_in_full :
    let pick : Game := { Game.blank with phase := .pick }
    let mid : List Event :=
      [.alarm ⟨.countdown, 1⟩, .frame (pickFrame true), .action (.pause false)]
    let b := ((fresh .default).run [.frame (pickFrame false), .alarm ⟨.countdown, 1⟩]).1.take
      (.update { pick with paused := true } .blank none)
    let r := (b.1.run mid).1.take (.update pick .blank none)
    (b.1.run mid).1.countdown.remaining = none ∧ r.1.view.countdown = some 10 ∧
      timersAsked r.2.2 = [(.countdown, .ofSeconds 1)] := by
  intro pick mid
  have hmid : ∀ e ∈ mid, ¬ e.Resumes := by
    intro e he
    simp only [mid, List.mem_cons, List.not_mem_nil, or_false] at he
    rcases he with rfl | rfl | rfl
    · exact id
    · exact not_resumes_pickFrame
    · exact id
  have hpaused : Game.paused { pick with paused := true } = true := rfl
  obtain ⟨-, hrest, hresume⟩ := pause_interrupts .default
    [.frame (pickFrame false), .alarm ⟨.countdown, 1⟩] hpaused .blank none hmid
  obtain ⟨hshown, -, -, hasked⟩ := hresume pick .blank none rfl
    (by decide +kernel)
  have hnone := (hrest mid (List.prefix_refl mid)).1
  refine ⟨?_, ?_, ?_⟩
  · exact hnone
  · rw [hshown]
    decide +kernel
  · rw [hasked]
    decide +kernel

end Client

end QuizClient
