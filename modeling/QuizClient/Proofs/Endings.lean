import QuizClient.Proofs.Renewal

/-!
# When a timeline is over

An alarm belongs to one life of its timeline: one countdown, one time to read the clue,
one batch of score changes, one advisory.  Such a life ends in the way of its timeline,
and not every end counts the generation on.  Still an alarm whose life is over never does
anything again, because a life of the same timeline that begins later is always of a later
generation.

## Main definitions

* `Client.Ended` — the life that an alarm belongs to is over.

## Main results

* `ended_iff` — it is over when the timeline does not expect the alarm.
* `ended_of_leave`, `ended_of_reset` — leaving and starting over end everything.
* `run_without_stale` — a run does the same without its stale alarms.
* `ended_alarm_stays_stale` — **an alarm whose life is over does nothing ever after.**
-/

namespace QuizClient

/-- The life of its timeline that an alarm belongs to is over. -/
inductive Client.Ended (c : Client) : Alarm → Prop
  /-- The countdown came to zero. -/
  | expired {n : Nat} (h : c.countdown.display = .expired) : c.Ended ⟨.countdown, n⟩
  /-- The countdown was cancelled. -/
  | cancelled {n : Nat} (h : c.countdown.display = .idle) : c.Ended ⟨.countdown, n⟩
  /-- Another countdown started. -/
  | restarted {n : Nat} (h : c.countdown.generation ≠ n) : c.Ended ⟨.countdown, n⟩
  /-- The clue was read and buzzing is open. -/
  | opened {n : Nat} (h : c.window.stage = .open) : c.Ended ⟨.reading, n⟩
  /-- The buzz window closed. -/
  | closed {n : Nat} (h : c.window.stage = .closed) : c.Ended ⟨.reading, n⟩
  /-- The buzz window was entered again. -/
  | reentered {n : Nat} (h : c.window.generation ≠ n) : c.Ended ⟨.reading, n⟩
  /-- The score changes were shown long enough, or cleared. -/
  | cleared {n : Nat} (h : c.changes.entries = []) : c.Ended ⟨.scores, n⟩
  /-- Other score changes took their place. -/
  | renewed {n : Nat} (h : c.changes.generation ≠ n) : c.Ended ⟨.scores, n⟩
  /-- No advisory is shown that passes by itself. -/
  | dismissed {n : Nat} (h : c.advisory.any (·.kind.isPassing) = false) : c.Ended ⟨.advisory, n⟩
  /-- Another advisory took its place. -/
  | superseded {n : Nat} (h : c.advisoryGeneration ≠ n) : c.Ended ⟨.advisory, n⟩

namespace Client

theorem Ended.not_due {c : Client} {a : Alarm} (h : c.Ended a)
    (hs : (c.position a.timeline).Sound) :
    (c.position a.timeline).standing ≠ .due a.generation := by
  intro hdue
  have hn := hs a.generation hdue
  cases h with
  | expired h => simp [h] at hdue
  | cancelled h => simp [h] at hdue
  | restarted h => exact h hn.symm
  | opened h => simp [h] at hdue
  | closed h => simp [h] at hdue
  | reentered h => exact h hn.symm
  | cleared h => simp [h] at hdue
  | renewed h => exact h hn.symm
  | dismissed h => simp [h] at hdue
  | superseded h => exact h hn.symm

theorem ended_of_not_due {c : Client} {a : Alarm} (hs : (c.position a.timeline).Sound)
    (h : (c.position a.timeline).standing ≠ .due a.generation) : c.Ended a := by
  obtain ⟨t, n⟩ := a
  -- what the timeline does expect is of its own generation, not of the alarm's
  cases t with
  | countdown =>
    cases hd : c.countdown.display with
    | idle => exact .cancelled hd
    | expired => exact .expired hd
    | running r m =>
      have hm : m = c.countdown.generation := hs m ((countdown_due_iff c m).mpr ⟨r, hd⟩)
      refine .restarted fun hn => h ((countdown_due_iff c n).mpr ⟨r, ?_⟩)
      rw [hd, hm, hn]
  | reading =>
    cases hw : c.window.stage with
    | closed => exact .closed hw
    | «open» => exact .opened hw
    | blocked m =>
      have hm : m = c.window.generation := hs m ((reading_due_iff c m).mpr hw)
      refine .reentered fun hn => h ((reading_due_iff c n).mpr ?_)
      rw [hw, hm, hn]
  | scores =>
    by_cases hn : c.changes.generation = n
    · refine .cleared (by_contra fun he => h ?_)
      exact (scores_due_iff c n).mpr ⟨hn.symm, he⟩
    · exact .renewed hn
  | advisory =>
    by_cases hn : c.advisoryGeneration = n
    · refine .dismissed (Bool.eq_false_iff.mpr fun hp => h ?_)
      exact (advisory_due_iff c n).mpr ⟨hn.symm, hp⟩
    · exact .superseded hn

/-- **The life of an alarm is over** when its timeline does not expect the alarm. -/
theorem ended_iff {c : Client} {a : Alarm} (hs : (c.position a.timeline).Sound) :
    c.Ended a ↔ (c.position a.timeline).standing ≠ .due a.generation :=
  ⟨fun h => h.not_due hs, ended_of_not_due hs⟩

/-- Every life is over in a client that shows nothing that passes. -/
theorem ended_of_quiet {c : Client} (hk : c.countdown.display = .idle)
    (hw : c.window.stage = .closed) (hs : c.changes.entries = []) (hv : c.advisory = none)
    (a : Alarm) : c.Ended a := by
  obtain ⟨t, n⟩ := a
  cases t with
  | countdown => exact .cancelled hk
  | reading => exact .closed hw
  | scores => exact .cleared hs
  | advisory => exact .dismissed (by rw [hv]; rfl)

theorem ended_of_leave (c : Client) (a : Alarm) : c.leave.Ended a :=
  ended_of_quiet rfl rfl rfl rfl a

theorem ended_of_reset (c : Client) (a : Alarm) : c.reset.Ended a :=
  ended_of_quiet rfl rfl rfl rfl a

end Client

/-! ### Stale alarms in a run -/

/-- An alarm that was asked for is stale when its life is over, and only then. -/
theorem Accounted.stale_iff {c : Client} {wakes : List Wake} (h : Accounted c wakes) {w : Wake}
    (hw : w ∈ wakes) : Stale c w.alarm ↔ c.Ended w.alarm := by
  obtain ⟨hsound, hasked⟩ := h w.alarm.timeline
  rw [Client.ended_iff hsound]
  exact ⟨fun hs => hs.2, fun hdue => ⟨hasked _ (mem_asked hw), hdue⟩⟩

/-- **A run does the same without its stale alarms.** -/
theorem run_without_stale {c : Client} {a : Alarm} (h : Stale c a) (es : List Event) :
    c.run (es.filter (· ≠ .alarm a)) = c.run es := by
  induction es generalizing c with
  | nil => rfl
  | cons e es ih =>
    -- at the head it does nothing, and it is still stale in whatever follows
    by_cases he : e = .alarm a
    · subst he
      have hstep : c.step (.alarm a) = (c, .changed false, []) := by
        rw [Client.step_alarm, h.alarm_eq]
      rw [List.filter_cons_of_neg (by simp), ih h, Client.run_cons, hstep]
      rfl
    · rw [List.filter_cons_of_pos (by simpa using he), Client.run_cons, Client.run_cons,
        ih (stale_step h e)]

/-- **An alarm whose life is over does nothing ever after.**  An alarm that a run asked for
changes something when it comes back exactly while its life is not over.  Leaving and
starting over end every life, and one that is over is over for good: whenever the alarm
comes from then on it changes nothing and asks for nothing, and whatever happens, the
client does the same as if it never came. -/
theorem ended_alarm_stays_stale (settings : Settings) (es : List Event) {w : Wake}
    (hw : w ∈ ((Client.fresh settings).run es).2) :
    let c := ((Client.fresh settings).run es).1
    ((c.alarm w.alarm).2.1 = true ↔ ¬ c.Ended w.alarm) ∧
    (c.leave.Ended w.alarm ∧ c.reset.Ended w.alarm) ∧
    (c.Ended w.alarm → ∀ later : List Event,
      let d := (c.run later).1
      d.Ended w.alarm ∧ d.alarm w.alarm = (d, false, []) ∧
      c.run (later.filter (· ≠ .alarm w.alarm)) = c.run later) := by
  intro c
  have haccounted : Accounted c _ := accounted_run settings es
  refine ⟨?_, ⟨Client.ended_of_leave c _, Client.ended_of_reset c _⟩, fun hended later => ?_⟩
  · rw [Client.alarm_changes_iff, Client.ended_iff (haccounted _).1, not_not]
  · have hstale : Stale c w.alarm := (haccounted.stale_iff hw).mpr hended
    have hlater : Stale (c.run later).1 w.alarm := stale_run hstale later
    refine ⟨?_, hlater.alarm_eq, run_without_stale hstale later⟩
    -- the longer run still knows the alarm, so stale means over there too
    have hrun := accounted_run settings (es ++ later)
    rw [Client.run_append] at hrun
    exact (hrun.stale_iff (List.mem_append_left _ hw)).mp hlater

/-- A pause ends the countdown, and the tick that it asked for does nothing from then on. -/
theorem cancelled_tick_stays_stale :
    let es : List Event := [.frame (pickFrame false), .frame (pickFrame true)]
    let c := ((Client.fresh .default).run es).1
    c.Ended ⟨.countdown, 1⟩ ∧ ∀ later : List Event,
      (c.run later).1.alarm ⟨.countdown, 1⟩ = ((c.run later).1, false, []) := by
  intro es
  have hw : Timeline.countdown.wake 1 (.ofSeconds 1) ∈ ((Client.fresh .default).run es).2 := by
    decide +kernel
  have hended : ((Client.fresh .default).run es).1.Ended ⟨.countdown, 1⟩ :=
    .cancelled (by decide +kernel)
  have hstays := (ended_alarm_stays_stale .default es hw).2.2 hended
  exact ⟨hended, fun later => (hstays later).2.1⟩

end QuizClient
