import QuizClient.Settings.Document

/-!
# Accepted settings

Settings come from a document that is sound, the default ones included.  Soundness is
checked entry by entry, and what it amounts to is said here once: no number that must not be
zero is, and the reading times do not cross.  In particular accepted settings give everybody
some time for everything.

## Main definitions

* `Settings.Accepted` — the default settings, or those of a text that was read.
* `TimeLimits.all` — the times that hold when a snapshot leaves one out.

## Main results

* `Document.violations_eq_nil_iff` — when a document is sound.
* `Settings.ofText_eq_ok_iff` — which settings a text holds.
* `Settings.Accepted.exists_document` — accepted settings come from a sound document.
* `Settings.Accepted.second_le` — **accepted settings give a second at least for
  everything.**
-/

namespace QuizClient

open Json

/-! ### Soundness -/

theorem Entry.mem_all (e : Entry) : e ∈ Entry.all := by
  cases e <;> decide

/-- **When a document is sound**: no number that must not be zero is, and the least reading
time does not exceed the most. -/
theorem Document.violations_eq_nil_iff (d : Document) :
    d.violations = [] ↔ (∀ e, d.entry e ≠ 0) ∧ d.pace.least ≤ d.pace.most := by
  have hzero : (Entry.all.filter fun e => d.entry e == 0).map Violation.zero = [] ↔
      ∀ e, d.entry e ≠ 0 := by
    simp [List.filter_eq_nil_iff, Entry.mem_all]
  have hcrossed : (if d.pace.most < d.pace.least then
      [Violation.crossed d.pace.least d.pace.most] else []) = [] ↔
      d.pace.least ≤ d.pace.most := by
    by_cases h : d.pace.most < d.pace.least
    · simp [h]
    · simpa [h] using UInt64.not_lt.mp h
  rw [Document.violations, List.append_eq_nil_iff, hzero, hcrossed]

namespace Settings

/-- **Which settings a text holds**: those of the document it holds, if that is sound. -/
theorem ofText_eq_ok_iff {text : String} {s : Settings} :
    ofText text = .ok s ↔
      ∃ d, Document.ofText text = .ok d ∧ d.violations = [] ∧ s = d.settings := by
  constructor
  · intro h
    obtain ⟨d, hd, h⟩ := exists_of_bind_eq_ok h
    have hread : Document.ofText text = .ok d := by
      cases hx : Document.ofText text with
      | error fault =>
        rw [hx] at hd
        cases hd
      | ok d' =>
        rw [hx] at hd
        cases hd
        rfl
    split at h
    · next hv =>
      cases h
      exact ⟨d, hread, hv, rfl⟩
    · cases h
  · rintro ⟨d, hd, hv, rfl⟩
    have hread : (Document.ofText text).mapError SettingsError.unreadable = .ok d := by
      rw [hd]
      rfl
    simp only [ofText, hread, bind, Except.bind, hv]

/-- Settings that a client may run with: the default ones, or those of a text that was
read. -/
def Accepted (s : Settings) : Prop := s = .default ∨ ∃ text, ofText text = .ok s

theorem violations_default : Document.default.violations = [] := by decide

/-- Accepted settings come from a sound document. -/
theorem Accepted.exists_document {s : Settings} (h : s.Accepted) :
    ∃ d : Document, d.violations = [] ∧ s = d.settings := by
  rcases h with rfl | ⟨text, h⟩
  · exact ⟨Document.default, violations_default, rfl⟩
  · obtain ⟨d, -, hd, hs⟩ := ofText_eq_ok_iff.mp h
    exact ⟨d, hd, hs⟩

end Settings

/-! ### Times -/

/-- The times that hold when a snapshot leaves one out. -/
def TimeLimits.all (l : TimeLimits) : List Duration :=
  [l.pick, l.buzz, l.answer, l.wager, l.finalAnswer, l.finalWager, l.vote]

theorem Duration.second_le_ofSeconds {n : UInt64} (h : n ≠ 0) :
    Duration.ofSeconds 1 ≤ Duration.ofSeconds n := by
  have hpos : n.toNat ≠ 0 := fun hzero => h (UInt64.toNat_inj.mp hzero)
  show (1 : UInt64).toNat * nanosPerSecond ≤ n.toNat * nanosPerSecond
  exact Nat.mul_le_mul_right _ (Nat.one_le_iff_ne_zero.mpr hpos)

/-- A second at least is not rounded to nothing. -/
theorem Duration.roundUp_ne_zero {d : Duration} (h : Duration.ofSeconds 1 ≤ d) :
    d.roundUp ≠ 0 := by
  have hle : (1 : UInt64).toNat * nanosPerSecond ≤ d.nanos := h
  have hsecond : 1 ≤ d.seconds := by
    rw [seconds, Nat.one_le_div_iff (by decide)]
    simpa using hle
  unfold roundUp
  omega

/-- **Accepted settings give a second at least for everything.** -/
theorem Settings.Accepted.second_le {s : Settings} (h : s.Accepted) :
    ∀ d ∈ s.limits.all, Duration.ofSeconds 1 ≤ d := by
  obtain ⟨doc, hsound, rfl⟩ := h.exists_document
  have hentry := ((Document.violations_eq_nil_iff doc).mp hsound).1
  have hlimits : doc.settings.limits.all =
      [Entry.pick, .buzz, .answer, .wager, .finalAnswer, .finalWager, .vote].map
        fun e => Duration.ofSeconds (doc.entry e) := rfl
  intro d hd
  rw [hlimits] at hd
  obtain ⟨e, -, rfl⟩ := List.mem_map.mp hd
  exact Duration.second_le_ofSeconds (hentry e)

end QuizClient
