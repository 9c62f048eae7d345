import QuizClient.Proofs.Pending
import QuizClient.Proofs.Window

/-!
# Alarms due at one moment

Alarms that fall due together come back in any order.  The order does not
matter: score changes and advisories touch nothing that another timeline looks
at, two alarms of one timeline are never both expected, and the countdown and
the reading time are never both waiting, since no countdown is shown while the
window is blocked.

## Main definitions

* `Stale` — an alarm that was asked for and is expected no more.
* `Client.Commute` — two alarms do the same in either order.
* `Client.deliver` — alarms handed back one after the other.

## Main results

* `stale_step` — a stale alarm stays stale.
* `commute_of_pending` — two pending alarms commute.
* `deliver_perm` — a batch of pending alarms does the same in every order.
* `simultaneous_alarms_commute` — **both, of every attended client.**
-/

namespace QuizClient

/-! ### Stale alarms -/

/-- An alarm was asked for at some time and is expected no more. -/
def Stale (c : Client) (a : Alarm) : Prop := (c.position a.timeline).Past a.generation

/-- A stale alarm changes nothing at all. -/
theorem Stale.alarm_eq {c : Client} {a : Alarm} (h : Stale c a) : c.alarm a = (c, false, []) :=
  Client.alarm_eq_of_not_due h.2

/-- **A stale alarm stays stale** whatever happens. -/
theorem stale_step {c : Client} {a : Alarm} (h : Stale c a) (e : Event) :
    Stale (c.step e).1 a :=
  (Client.step_progress c e a.timeline).past h

/-- A pending alarm that is not expected is stale. -/
theorem Balanced.stale {c : Client} {pending : List Alarm} (h : Balanced c pending) {a : Alarm}
    (ha : a ∈ pending) (hdue : (c.position a.timeline).standing ≠ .due a.generation) :
    Stale c a := by
  refine ⟨?_, hdue⟩
  by_contra hgt
  have hzero := (h a.timeline).beyond a.generation (Nat.lt_of_not_le hgt)
  exact List.count_eq_zero.mp hzero ha

namespace Client

/-! ### Two alarms -/

/-- Two alarms lead to one client in either order, each changes something in one order
when it does in the other, and they ask for the same alarms. -/
def Commute (c : Client) (a b : Alarm) : Prop :=
  ((c.alarm a).1.alarm b).1 = ((c.alarm b).1.alarm a).1 ∧
  (c.alarm a).2.1 = ((c.alarm b).1.alarm a).2.1 ∧
  ((c.alarm a).1.alarm b).2.1 = (c.alarm b).2.1 ∧
  ((c.alarm a).2.2 ++ ((c.alarm a).1.alarm b).2.2).Perm
    ((c.alarm b).2.2 ++ ((c.alarm b).1.alarm a).2.2)

theorem Commute.symm {c : Client} {a b : Alarm} (h : c.Commute a b) : c.Commute b a :=
  ⟨h.1.symm, h.2.2.1.symm, h.2.1.symm, h.2.2.2.symm⟩

theorem commute_of_stale {c : Client} {a : Alarm} (h : Stale c a) (b : Alarm) :
    c.Commute a b := by
  have hb : (c.alarm b).1.alarm a = ((c.alarm b).1, false, []) := (stale_step h (.alarm b)).alarm_eq
  unfold Commute
  rw [hb, h.alarm_eq]
  exact ⟨rfl, rfl, rfl, by simp⟩

theorem startCountdown_of_changes (c : Client) (s : ScoreChanges) (p : Phase) (d : Duration) :
    { c with changes := s }.startCountdown p d =
      ({ (c.startCountdown p d).1 with changes := s }, (c.startCountdown p d).2) := by
  by_cases h : c.countdown.paused = true ∨ d.roundUp = 0
  · rw [startCountdown_of_refused h]
    exact startCountdown_of_refused (c := { c with changes := s }) h p
  · obtain ⟨hp, hd⟩ : c.countdown.paused = false ∧ d.roundUp ≠ 0 := by simpa using h
    rw [startCountdown_of_accepted hp hd]
    exact startCountdown_of_accepted (c := { c with changes := s }) hp hd p

theorem startCountdown_of_advisory (c : Client) (a : Option Advisory) (p : Phase) (d : Duration) :
    { c with advisory := a }.startCountdown p d =
      ({ (c.startCountdown p d).1 with advisory := a }, (c.startCountdown p d).2) := by
  by_cases h : c.countdown.paused = true ∨ d.roundUp = 0
  · rw [startCountdown_of_refused h]
    exact startCountdown_of_refused (c := { c with advisory := a }) h p
  · obtain ⟨hp, hd⟩ : c.countdown.paused = false ∧ d.roundUp ≠ 0 := by simpa using h
    rw [startCountdown_of_accepted hp hd]
    exact startCountdown_of_accepted (c := { c with advisory := a }) hp hd p

/-- An alarm of another timeline neither looks at the score changes nor touches them. -/
theorem alarm_of_changes (c : Client) (s : ScoreChanges) {b : Alarm} (hb : b.timeline ≠ .scores) :
    { c with changes := s }.alarm b = ({ (c.alarm b).1 with changes := s }, (c.alarm b).2) ∧
      (c.alarm b).1.changes = c.changes := by
  by_cases hdue : (c.position b.timeline).standing = .due b.generation
  · obtain ⟨t, m⟩ := b
    cases t with
    | scores => exact absurd rfl hb
    | countdown => exact ⟨rfl, rfl⟩
    | reading =>
      have hw := (reading_due_iff c m).mp hdue
      obtain ⟨k, o, hframe⟩ := alarm_reading_frame hw
      refine ⟨?_, by rw [hframe]⟩
      rw [alarm_reading_of_due hw, alarm_reading_of_due (c := { c with changes := s }) hw]
      exact congrArg (fun r : Client × List Wake => (r.1, true, r.2))
        (startCountdown_of_changes { c with window := { c.window with stage := .open } } s _ _)
    | advisory =>
      have ha := (advisory_due_iff c m).mp hdue
      rw [alarm_advisory_of_due ha, alarm_advisory_of_due (c := { c with changes := s }) ha]
      exact ⟨rfl, rfl⟩
  · have hsame : ({ c with changes := s }.position b.timeline).standing ≠ .due b.generation := by
      rwa [position_of_changes hb c s c.latest c.buzzSpent]
    rw [alarm_eq_of_not_due hdue, alarm_eq_of_not_due hsame]
    exact ⟨rfl, rfl⟩

/-- An alarm of another timeline neither looks at the advisory nor touches it. -/
theorem alarm_of_advisory (c : Client) (a : Option Advisory) {b : Alarm}
    (hb : b.timeline ≠ .advisory) :
    { c with advisory := a }.alarm b = ({ (c.alarm b).1 with advisory := a }, (c.alarm b).2) ∧
      (c.alarm b).1.advisory = c.advisory ∧
      (c.alarm b).1.advisoryGeneration = c.advisoryGeneration := by
  by_cases hdue : (c.position b.timeline).standing = .due b.generation
  · obtain ⟨t, m⟩ := b
    cases t with
    | advisory => exact absurd rfl hb
    | countdown => exact ⟨rfl, rfl, rfl⟩
    | reading =>
      have hw := (reading_due_iff c m).mp hdue
      obtain ⟨k, o, hframe⟩ := alarm_reading_frame hw
      refine ⟨?_, by rw [hframe], by rw [hframe]⟩
      rw [alarm_reading_of_due hw, alarm_reading_of_due (c := { c with advisory := a }) hw]
      exact congrArg (fun r : Client × List Wake => (r.1, true, r.2))
        (startCountdown_of_advisory { c with window := { c.window with stage := .open } } a _ _)
    | scores =>
      have hs := (scores_due_iff c m).mp hdue
      rw [alarm_scores_of_due hs, alarm_scores_of_due (c := { c with advisory := a }) hs]
      exact ⟨rfl, rfl, rfl⟩
  · have hsame : ({ c with advisory := a }.position b.timeline).standing ≠ .due b.generation := by
      rwa [position_of_advisory hb c a c.advisoryGeneration]
    rw [alarm_eq_of_not_due hdue, alarm_eq_of_not_due hsame]
    exact ⟨rfl, rfl, rfl⟩

/-- The alarm of score changes commutes with every alarm of another timeline. -/
theorem commute_scores {c : Client} {n : Nat} {b : Alarm}
    (hn : n = c.changes.generation ∧ c.changes.entries ≠ []) (hb : b.timeline ≠ .scores) :
    c.Commute ⟨.scores, n⟩ b := by
  obtain ⟨hsame, hchanges⟩ := alarm_of_changes c { c.changes with entries := [] } hb
  have hlater : (c.alarm b).1.alarm ⟨.scores, n⟩ =
      ({ (c.alarm b).1 with changes := { c.changes with entries := [] } }, true, []) := by
    rw [← hchanges] at hn ⊢
    exact alarm_scores_of_due hn
  unfold Commute
  rw [alarm_scores_of_due hn, hlater, hsame]
  exact ⟨rfl, rfl, rfl, by simp⟩

/-- The alarm of an advisory commutes with every alarm of another timeline. -/
theorem commute_advisory {c : Client} {n : Nat} {b : Alarm}
    (hn : n = c.advisoryGeneration ∧ c.advisory.any (·.kind.isPassing) = true)
    (hb : b.timeline ≠ .advisory) : c.Commute ⟨.advisory, n⟩ b := by
  obtain ⟨hsame, hadvisory, hgeneration⟩ := alarm_of_advisory c none hb
  have hlater : (c.alarm b).1.alarm ⟨.advisory, n⟩ =
      ({ (c.alarm b).1 with advisory := none }, true, []) := by
    rw [← hadvisory, ← hgeneration] at hn
    exact alarm_advisory_of_due hn
  unfold Commute
  rw [alarm_advisory_of_due hn, hlater, hsame]
  exact ⟨rfl, rfl, rfl, by simp⟩

/-- **Two pending alarms commute.** -/
theorem commute_of_pending {c : Client} {pending rest : List Alarm} (h : Balanced c pending)
    (hc : c.Coupled) {a b : Alarm} (hp : pending.Perm (a :: b :: rest)) : c.Commute a b := by
  by_cases ha : (c.position a.timeline).standing = .due a.generation
  swap
  · exact commute_of_stale (h.stale (hp.mem_iff.mpr (by simp)) ha) b
  by_cases hb : (c.position b.timeline).standing = .due b.generation
  swap
  · exact (commute_of_stale (h.stale (hp.mem_iff.mpr (by simp)) hb) a).symm
  -- from here on both alarms are expected
  obtain ⟨s, n⟩ := a
  obtain ⟨t, m⟩ := b
  by_cases hst : s = t
  · -- two expected alarms of one timeline would be the same alarm twice
    subst hst
    have hnm : m = n := by
      have := hb.symm.trans ha
      cases this
      rfl
    subst hnm
    have hone : pending.count ⟨s, m⟩ ≤ 1 := (h s).single m
    have htwo : pending.count ⟨s, m⟩ = rest.count ⟨s, m⟩ + 2 := by simp [hp.count_eq]
    omega
  · -- no countdown is shown while the window is blocked
    have key : ∀ {n m : Nat}, c.countdown.display.standing = .due n →
        c.window.stage = .blocked m → False := by
      intro n m hk hw
      rw [hc.idle m hw] at hk
      cases hk
    cases s with
    | scores => exact commute_scores ((scores_due_iff c n).mp ha) (Ne.symm hst)
    | advisory => exact commute_advisory ((advisory_due_iff c n).mp ha) (Ne.symm hst)
    | countdown =>
      cases t with
      | countdown => exact absurd rfl hst
      | scores => exact (commute_scores ((scores_due_iff c m).mp hb) hst).symm
      | advisory => exact (commute_advisory ((advisory_due_iff c m).mp hb) hst).symm
      | reading => exact (key ha ((reading_due_iff c m).mp hb)).elim
    | reading =>
      cases t with
      | reading => exact absurd rfl hst
      | scores => exact (commute_scores ((scores_due_iff c m).mp hb) hst).symm
      | advisory => exact (commute_advisory ((advisory_due_iff c m).mp hb) hst).symm
      | countdown => exact (key hb ((reading_due_iff c n).mp ha)).elim

/-! ### A batch of alarms -/

/-- Some alarms come back one after the other: the client after them, whether each of
them changed anything, and the alarms asked for meanwhile. -/
def deliver (c : Client) : List Alarm → Client × List (Alarm × Bool) × List Wake
  | [] => (c, [], [])
  | a :: as =>
    let (d, changed, wakes) := c.alarm a
    let (d, answers, more) := d.deliver as
    (d, (a, changed) :: answers, wakes ++ more)

@[simp] theorem deliver_cons (c : Client) (a : Alarm) (as : List Alarm) :
    c.deliver (a :: as) =
      (((c.alarm a).1.deliver as).1, (a, (c.alarm a).2.1) :: ((c.alarm a).1.deliver as).2.1,
        (c.alarm a).2.2 ++ ((c.alarm a).1.deliver as).2.2) := rfl

/-- Two batches end in one client, give each alarm the same answer and ask for the same
alarms. -/
def Alike (c : Client) (batch batch' : List Alarm) : Prop :=
  (c.deliver batch).1 = (c.deliver batch').1 ∧
  (c.deliver batch).2.1.Perm (c.deliver batch').2.1 ∧
  (c.deliver batch).2.2.Perm (c.deliver batch').2.2

theorem Alike.cons {c : Client} {a : Alarm} {batch batch' : List Alarm}
    (h : (c.alarm a).1.Alike batch batch') : c.Alike (a :: batch) (a :: batch') := by
  obtain ⟨hclient, hanswers, hwakes⟩ := h
  exact ⟨hclient, hanswers.cons _, hwakes.append_left _⟩

theorem Alike.trans {c : Client} {as bs cs : List Alarm} (h₁ : c.Alike as bs)
    (h₂ : c.Alike bs cs) : c.Alike as cs :=
  ⟨h₁.1.trans h₂.1, h₁.2.1.trans h₂.2.1, h₁.2.2.trans h₂.2.2⟩

theorem Commute.alike {c : Client} {a b : Alarm} (h : c.Commute a b) (batch : List Alarm) :
    c.Alike (a :: b :: batch) (b :: a :: batch) := by
  obtain ⟨hclient, ha, hb, hwakes⟩ := h
  simp only [Alike, deliver_cons, hclient, ha, hb]
  refine ⟨trivial, .swap _ _ _, ?_⟩
  rw [← List.append_assoc, ← List.append_assoc]
  exact hwakes.append_right _

/-- **A batch of pending alarms does the same in every order.** -/
theorem deliver_perm {batch batch' : List Alarm} (h : batch.Perm batch') {c : Client}
    {pending rest : List Alarm} (hb : Balanced c pending) (hc : c.Coupled)
    (hp : pending.Perm (batch ++ rest)) : c.Alike batch batch' := by
  induction h generalizing c pending rest with
  | nil => exact ⟨rfl, .refl _, .refl _⟩
  | @cons a as as' _ ih =>
    have hrest : (as ++ rest ++ (c.alarm a).2.2.map (·.alarm)).Perm
        (as ++ (rest ++ (c.alarm a).2.2.map (·.alarm))) := by rw [List.append_assoc]
    exact .cons (ih (hb.alarm hp) (hc.alarm a) hrest)
  -- the two swapped alarms are still pending when they come, so they commute
  | swap a b as => exact (commute_of_pending hb hc hp).alike as
  | trans h₁ _ ih₁ ih₂ => exact (ih₁ hb hc hp).trans (ih₂ hb hc (hp.trans (h₁.append_right rest)))

end Client

/-- What an attended client becomes, some run of a new client leads to as well. -/
theorem reachable_attended (settings : Settings) (inputs : List Stimulus) :
    Client.Reachable settings ((Attended.fresh settings).run inputs).client := by
  have key : ∀ d : Attended, Client.Reachable settings d.client →
      Client.Reachable settings (d.run inputs).client := by
    induction inputs with
    | nil => exact fun d h => h
    | cons i is ih =>
      refine fun d h => ih (d.feed i) ?_
      unfold Attended.feed
      cases i.event? d.pending with
      | none => exact h
      | some e => exact h.step e
  exact key _ (.fresh settings)

/-- **Alarms due at one moment commute**, for every client whose alarms come back at
most once each.  Two of the pending alarms do the same in either order, and so does
every batch of them in any two orders: the client ends up the same, each alarm is
told the same, and the same alarms are asked for. -/
theorem simultaneous_alarms_commute (settings : Settings) (inputs : List Stimulus) :
    let d := (Attended.fresh settings).run inputs
    (∀ a b rest, d.pending.Perm (a :: b :: rest) → d.client.Commute a b) ∧
    ∀ batch batch' rest, d.pending.Perm (batch ++ rest) → batch.Perm batch' →
      d.client.Alike batch batch' := by
  intro d
  have hb : Balanced d.client d.pending := balanced_run settings inputs
  have hc : d.client.Coupled := by
    obtain ⟨es, hes⟩ := reachable_attended settings inputs
    exact hes ▸ Client.coupled_run settings es
  refine ⟨fun a b rest hp => ?_, fun batch batch' rest hp h => ?_⟩
  · exact Client.commute_of_pending hb hc hp
  · exact Client.deliver_perm h hb hc hp

end QuizClient
