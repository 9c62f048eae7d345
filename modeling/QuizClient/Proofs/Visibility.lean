import QuizClient.Proofs.Ownership

/-!
# What an alarm shows

An alarm reports whether it changed anything to be seen, and whoever runs the client
publishes on that word alone.  The word is true: an alarm that was expected takes a second
off the countdown, opens the buzz window, or takes score changes or a message down, and all
of that is seen; any other alarm leaves the client as it is.

That what is expected is also seen needs the countdown to be in order: one that runs shows a
second at least, so a tick always shows one less.

## Main results

* `view_tick`, `view_scores`, `view_advisory` — what is shown after an expected alarm.
* `view_ne_of_due` — an expected alarm is seen.
* `alarm_visible` — **an alarm reports the truth, in every run.**
-/

namespace QuizClient

namespace Client

/-- A tick that is expected takes a second off the countdown shown, and shows nothing
else. -/
theorem view_tick {c : Client} {r n : Nat} (h : c.countdown.display = .running r n) :
    (c.alarm ⟨.countdown, n⟩).1.view = { c.view with countdown := some (r - 1) } := by
  by_cases hlast : r ≤ 1
  · have hzero : r - 1 = 0 := Nat.sub_eq_zero_of_le hlast
    simp [alarm, Countdown.tick, h, hlast, hzero, view, phase, permissions, Countdown.remaining]
  · simp [alarm, Countdown.tick, h, hlast, view, phase, permissions, Countdown.remaining]

/-- The alarm of the reading time that is expected shows that buzzing is open. -/
theorem view_opened {c : Client} {n : Nat} (h : c.window.stage = .blocked n) :
    (c.alarm ⟨.reading, n⟩).1.view.window = .open := by
  obtain ⟨k, o, hs⟩ := alarm_reading_frame h
  rw [hs]
  rfl

/-- The alarm of score changes that is expected takes them down, and shows nothing else. -/
theorem view_scores {c : Client} {n : Nat}
    (h : n = c.changes.generation ∧ c.changes.entries ≠ []) :
    (c.alarm ⟨.scores, n⟩).1.view = { c.view with changes := [] } := by
  rw [alarm_scores_of_due h]
  rfl

/-- The alarm of a message that is expected takes it down, and shows nothing else. -/
theorem view_advisory {c : Client} {n : Nat}
    (h : n = c.advisoryGeneration ∧ c.advisory.any (·.kind.isPassing) = true) :
    (c.alarm ⟨.advisory, n⟩).1.view = { c.view with advisory := none } := by
  rw [alarm_advisory_of_due h]
  rfl

/-- **An alarm that is expected is seen.** -/
theorem view_ne_of_due {c : Client} (h : c.Tracked) {a : Alarm}
    (hdue : (c.position a.timeline).standing = .due a.generation) :
    (c.alarm a).1.view ≠ c.view := by
  obtain ⟨t, n⟩ := a
  intro heq
  cases t with
  | countdown =>
    obtain ⟨r, hr⟩ := (countdown_due_iff c n).mp hdue
    have hpositive : 1 ≤ r := (h.current r n hr).1
    have hbefore : c.view.countdown = some r := by simp [view, Countdown.remaining, hr]
    have hafter : c.view.countdown = some (r - 1) := by rw [← heq, view_tick hr]
    rw [hbefore, Option.some.injEq] at hafter
    omega
  | reading =>
    have hb := (reading_due_iff c n).mp hdue
    have hbefore : c.view.window = .blocked := by simp [view, BuzzWindow.status, hb]
    have hafter := view_opened hb
    rw [heq, hbefore] at hafter
    cases hafter
  | scores =>
    have hn := (scores_due_iff c n).mp hdue
    rw [view_scores hn] at heq
    exact hn.2 (congrArg View.changes heq).symm
  | advisory =>
    have hn := (advisory_due_iff c n).mp hdue
    rw [view_advisory hn] at heq
    have hnone : c.advisory = none := (congrArg View.advisory heq).symm
    rw [hnone] at hn
    cases hn.2

/-- **An alarm reports the truth**, in every run and for every alarm, asked for or not.  It
says that it changed something to be seen when, and only when, what is shown changed; and
when it says that it did not, the client is the same and nothing is asked for. -/
theorem alarm_visible (settings : Settings) (es : List Event) (a : Alarm) :
    let c := ((fresh settings).run es).1
    ((c.alarm a).2.1 = true ↔ (c.alarm a).1.view ≠ c.view) ∧
      ((c.alarm a).2.1 = false → c.alarm a = (c, false, [])) := by
  intro c
  have hc : c.Tracked := (owned_run settings es).toTracked
  have hstale : (c.alarm a).2.1 = false → c.alarm a = (c, false, []) := fun hfalse =>
    alarm_eq_of_not_due fun hdue => by
      rw [(alarm_changes_iff c a).mpr hdue] at hfalse
      cases hfalse
  refine ⟨⟨fun htrue => view_ne_of_due hc ((alarm_changes_iff c a).mp htrue), fun hne => ?_⟩,
    hstale⟩
  by_contra hfalse
  rw [Bool.not_eq_true] at hfalse
  exact hne (by rw [hstale hfalse])

end Client

end QuizClient
