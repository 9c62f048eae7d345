import QuizClient.Proofs.Acceptance
import QuizClient.Proofs.FinalRound
import QuizClient.Proofs.Replacement
import QuizClient.Proofs.Wire

/-!
# The times of the phases

Each phase of play asks something of the countdown, and when it asks for one its time is a
time that the snapshot sets or, when it sets none, a limit of the settings.  So where both
give a second at least for everything, no phase asks for less.

## Main definitions

* `Client.Timing.time?` — the time of a countdown that is asked for.
* `Game.GivesTime`, `Client.Gives` — a second at least for everything.

## Main results

* `timing_of_pick`, `timing_of_answer`, `timing_of_wager`, `timing_of_vote`,
  `timing_of_buzz` — what a phase asks of the countdown; the final round has
  `timing_final` and the other phases `timing_of_untimed`.
* `Gives.time?` — **no phase asks for a countdown of less than a second.**
-/

namespace QuizClient

namespace Client

/-! ### What a phase of play asks of the countdown -/

section timing

variable {c : Client}

theorem timing_of_pick (h : c.latest.phase = .pick) :
    c.timing = .ensure (c.latest.game.pickTime.getD c.settings.limits.pick) := by
  have hphase : c.latest.game.phase = .pick := h
  simp only [timing, hphase]

theorem timing_of_answer (h : c.latest.phase = .answer) (hr : c.latest.round ≠ .final) :
    c.timing = .ensure (c.latest.game.answerTime.getD c.settings.limits.answer) := by
  have hphase : c.latest.game.phase = .answer := h
  have hround : c.latest.game.round ≠ .final := hr
  cases hcase : c.latest.game.round with
  | final => exact absurd hcase hround
  | _ => simp only [timing, hphase, hcase]

theorem timing_of_wager (h : c.latest.phase = .wager) (hr : c.latest.round ≠ .final) :
    c.timing = .ensure (c.latest.game.wagerTime.getD c.settings.limits.wager) := by
  have hphase : c.latest.game.phase = .wager := h
  have hround : c.latest.game.round ≠ .final := hr
  cases hcase : c.latest.game.round with
  | final => exact absurd hcase hround
  | _ => simp only [timing, hphase, hcase]

theorem timing_of_vote (h : c.latest.phase = .vote) :
    c.timing = if c.permissions.vote then
      .ensure (c.latest.game.voteTime.getD c.settings.limits.vote) else .stop := by
  have hphase : c.latest.game.phase = .vote := h
  simp only [timing, hphase]

theorem timing_of_buzz (h : c.latest.phase = .buzz) : c.timing = .keep := by
  have hphase : c.latest.game.phase = .buzz := h
  simp only [timing, hphase]

end timing

/-- The time of a countdown that a phase of play asks for. -/
def Timing.time? : Timing → Option Duration
  | .stop | .keep => none
  | .ensure d | .restart d => some d

end Client

/-! ### Time for everything -/

/-- Every time that a snapshot sets is a second at least. -/
def Game.GivesTime (g : Game) : Prop := ∀ t ∈ g.times, ∀ d ∈ t, Duration.ofSeconds 1 ≤ d

instance (g : Game) : Decidable g.GivesTime :=
  inferInstanceAs (Decidable (∀ t ∈ g.times, ∀ d ∈ t, Duration.ofSeconds 1 ≤ d))

theorem Game.givesTime_blank : Game.blank.GivesTime := by decide

namespace Client

/-- The settings and the latest snapshot give a second at least for everything. -/
structure Gives (c : Client) : Prop where
  /-- The settings do. -/
  limits : ∀ d ∈ c.settings.limits.all, Duration.ofSeconds 1 ≤ d
  /-- The snapshot does. -/
  game : c.latest.game.GivesTime

namespace Gives

variable {c d : Client}

theorem congr (h : c.Gives) (hs : d.settings = c.settings) (hl : d.latest = c.latest) :
    d.Gives := by
  refine ⟨?_, ?_⟩
  · rw [hs]
    exact h.limits
  · rw [hl]
    exact h.game

/-- A time of the snapshot, or the limit that holds when it sets none. -/
theorem getD (h : c.Gives) {t : Option Duration} (ht : t ∈ c.latest.game.times) {l : Duration}
    (hl : l ∈ c.settings.limits.all) : Duration.ofSeconds 1 ≤ t.getD l := by
  cases t with
  | none => exact h.limits l hl
  | some d => exact h.game _ ht d rfl

theorem buzzTime (h : c.Gives) : c.buzzTime.roundUp ≠ 0 :=
  Duration.roundUp_ne_zero (h.getD (by simp [Game.times]) (by simp [TimeLimits.all]))

/-- **No phase asks for a countdown of less than a second.** -/
theorem time? (h : c.Gives) {d : Duration} (hd : c.timing.time? = some d) : d.roundUp ≠ 0 := by
  have hgiven : ∀ {t : Option Duration} {l : Duration}, t ∈ c.latest.game.times →
      l ∈ c.settings.limits.all → some (t.getD l) = some d → d.roundUp ≠ 0 := by
    intro t l ht hl heq
    cases heq
    exact Duration.roundUp_ne_zero (h.getD ht hl)
  -- every time stands among the times of the snapshot, and its limit among the limits
  simp only [Game.times, TimeLimits.all] at hgiven
  cases hphase : c.latest.phase with
  | pick =>
    rw [timing_of_pick hphase] at hd
    exact hgiven (by simp) (by simp) hd
  | buzz =>
    rw [timing_of_buzz hphase] at hd
    cases hd
  | answer =>
    by_cases hround : c.latest.round = .final
    · rw [timing_final (f := .answer) hround hphase] at hd
      split at hd
      · exact hgiven (t := c.latest.game.finalAnswerTime) (by simp) (by simp) hd
      · cases hd
    · rw [timing_of_answer hphase hround] at hd
      exact hgiven (by simp) (by simp) hd
  | wager =>
    by_cases hround : c.latest.round = .final
    · rw [timing_final (f := .wager) hround hphase] at hd
      split at hd
      · exact hgiven (t := c.latest.game.finalWagerTime) (by simp) (by simp) hd
      · cases hd
    · rw [timing_of_wager hphase hround] at hd
      exact hgiven (by simp) (by simp) hd
  | vote =>
    rw [timing_of_vote hphase] at hd
    split at hd
    · exact hgiven (by simp) (by simp) hd
    · cases hd
  | _ =>
    rw [timing_of_untimed (by simp [hphase, untimedPhases])] at hd
    cases hd

end Gives

end Client

end QuizClient
