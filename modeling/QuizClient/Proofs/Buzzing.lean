import QuizClient.Proofs.Window
import QuizClient.Settings.Document

/-!
# When a buzz goes out

The check before a buzz is sent only asks that the window is not blocked and that no buzz
is spent.  That is enough: a buzz goes out only while the window is open, after a wrong
guess or once the time to read the clue is over, and none follows another before the
server has answered with a snapshot or a rejection.

## Main definitions

* `Client.Entry` — a snapshot enters a buzz window that later events keep.
* `Client.Renews` — an event after which a buzz may go out again.
* `Client.BuzzLocked` — no buzz goes out.

## Main results

* `entered_by` — a buzz window was entered by a snapshot, and why it is open.
* `locked_step`, `exists_renewal` — what unlocks the buzz.
* `buzz_sent_in_time` — **when a buzz goes out**, in every run.
-/

namespace QuizClient

open Json (exists_of_bind_eq_ok)

/-! ### The codes of a rejection -/

theorem Status.code_of_rejected {code : Int64} (h : Status.ofCode code = .ok (.failed .rejected)) :
    4400 ≤ code ∧ code ≤ 4499 ∧ code ≠ 4401 := by
  unfold ofCode at h
  split at h
  · cases h
  split at h
  · cases h
  split at h
  · cases h
  split at h
  · cases h
  next hlow =>
    split at h
    · cases h
    next hother =>
      split at h
      · next hhigh =>
        rw [Int64.not_lt] at hlow
        rw [Int64.lt_iff_toInt_lt] at hhigh
        refine ⟨hlow, ?_, hother⟩
        rw [Int64.le_iff_toInt_le]
        exact Int.lt_add_one_iff.mp hhigh
      · cases h

theorem Status.eq_failed_of_failure? {s : Status} {kind : Failure} (h : s.failure? = some kind) :
    s = .failed kind := by
  cases s <;> cases h
  rfl

/-- A failure that a frame tells is the one its code means. -/
theorem Inbound.status_of_failure {text : String} {kind : Failure} {code : Int64}
    {message : String} (h : Inbound.ofText text = .ok (.failure kind code message)) :
    Status.ofCode code = .ok (.failed kind) := by
  obtain ⟨e, -, h⟩ := exists_of_bind_eq_ok h
  obtain ⟨s, hs, h⟩ := exists_of_bind_eq_ok h
  cases hf : s.failure? with
  | some k =>
    simp only [hf] at h
    cases h
    rw [hs, Status.eq_failed_of_failure? hf]
  | none =>
    -- without a failure the envelope tells of something else, or of nothing
    simp only [hf] at h
    split at h
    · cases h
    split at h
    · cases h
    obtain ⟨g, -, h⟩ := exists_of_bind_eq_ok h
    obtain ⟨p, -, h⟩ := exists_of_bind_eq_ok h
    cases h

namespace Client

/-! ### The entry of the window -/

/-- A snapshot that comes to a client enters the buzz window, and asks for what the entry
asks for; the window is of that entry ever since. -/
structure Entry (b : Client) (text : String) (g : Game) (later : List Event) : Prop where
  /-- The frame tells the snapshot. -/
  read : ∃ player advisory, Inbound.ofText text = .ok (.update g player advisory)
  /-- It enters the window. -/
  entered : (b.step (.frame text)).1.window = (b.window.enter g b.settings.pace).1
  /-- What the entry asks for is asked for. -/
  asked : ∀ w ∈ (b.window.enter g b.settings.pace).2.2, w ∈ (b.step (.frame text)).2.2
  /-- Nothing enters or leaves the window since. -/
  since : ∀ mid, mid <+: later →
    (b.run (.frame text :: mid)).1.window.generation = b.window.generation + 1

theorem Entry.concat {b : Client} {text : String} {g : Game} {later : List Event} {e : Event}
    (h : Entry b text g later)
    (he : (b.run (.frame text :: (later ++ [e]))).1.window.generation = b.window.generation + 1) :
    Entry b text g (later ++ [e]) :=
  ⟨h.read, h.entered, h.asked, forall_prefix_concat h.since he⟩

/-- **A buzz window was entered by a snapshot** of the run.  If it is open, that snapshot
came after a wrong guess or the alarm of the entry has come back. -/
theorem entered_by (settings : Settings) (es : List Event)
    (h : ((fresh settings).run es).1.window.stage ≠ .closed) :
    ∃ pre text g later, es = pre ++ .frame text :: later ∧
      Entry ((fresh settings).run pre).1 text g later ∧
      (((fresh settings).run es).1.window.stage = .open → g.guessedWrong ≠ [] ∨
        .alarm ⟨.reading, ((fresh settings).run es).1.window.generation⟩ ∈ later) := by
  induction es using List.reverseRecOn with
  | nil => exact absurd rfl h
  | append_singleton es e ih =>
    have hcoupled : ((fresh settings).run es).1.Coupled := coupled_run settings es
    -- an entry further back is still the entry when the generation is the same
    have hback : ∀ {pre text g later}, es = pre ++ .frame text :: later →
        Entry ((fresh settings).run pre).1 text g later →
        (((fresh settings).run es).1.step e).1.window.generation
          = ((fresh settings).run es).1.window.generation →
        Entry ((fresh settings).run pre).1 text g (later ++ [e]) := by
      rintro pre text g later rfl hentry hgen
      refine hentry.concat ?_
      rw [← hentry.since later (List.prefix_refl later), ← List.cons_append, run_append]
      simpa [run_append] using hgen
    rw [run_concat] at h ⊢
    cases step_window ((fresh settings).run es).1 e with
    | left hw =>
      rw [hw] at h
      exact absurd rfl h
    | kept hw =>
      rw [hw] at h ⊢
      obtain ⟨pre, text, g, later, hes, hentry, hopen⟩ := ih h
      refine ⟨pre, text, g, later ++ [e], by simp [hes], hback hes hentry (by rw [hw]),
        fun ho => ?_⟩
      exact (hopen ho).imp_right (List.mem_append_left [e])
    | entered text g player advisory he hi hw hwakes =>
      subst he
      refine ⟨es, text, g, [], rfl, ⟨⟨player, advisory, hi⟩, hw, hwakes, fun mid hmid => ?_⟩,
        fun ho => ?_⟩
      · rw [List.prefix_nil.mp hmid]
        show (((fresh settings).run es).1.step (.frame text)).1.window.generation = _
        rw [hw, BuzzWindow.generation_enter]
      · rw [hw, BuzzWindow.stage_enter] at ho
        refine .inl fun hnone => ?_
        rw [if_pos (by simp [Game.firstAttempt, hnone])] at ho
        cases ho
    | opened n he hb hw =>
      subst he
      obtain ⟨pre, text, g, later, hes, hentry, -⟩ := ih (by simp [hb])
      rw [hw]
      refine ⟨pre, text, g, later ++ [.alarm ⟨.reading, n⟩], by simp [hes],
        hback hes hentry (by rw [hw]), fun _ => .inr ?_⟩
      rw [← hcoupled.current n hb]
      exact List.mem_append_right later (List.mem_singleton_self _)

/-! ### One buzz at a time -/

/-- An event after which a buzz may go out again: a snapshot is taken over, or the server
rejects an action. -/
inductive Renews (c : Client) : Event → Prop
  /-- A snapshot is taken over. -/
  | snapshot {text : String} {g : Game} {player : Player} {advisory : Option String}
      (hh : c.halted = false) (hi : Inbound.ofText text = .ok (.update g player advisory)) :
      Renews c (.frame text)
  /-- The server rejects an action. -/
  | rejection {text message : String} {code : Int64} (hh : c.halted = false)
      (hi : Inbound.ofText text = .ok (.failure .rejected code message))
      (hcode : 4400 ≤ code ∧ code ≤ 4499 ∧ code ≠ 4401) : Renews c (.frame text)

/-- No buzz goes out: one is spent, or the latest snapshot is not open for buzzing. -/
def BuzzLocked (c : Client) : Prop := c.buzzSpent = true ∨ c.latest.phase ≠ .buzz

/-- The lock is about the buzz latch and the snapshots. -/
theorem BuzzLocked.congr {c c' : Client} (h : c.BuzzLocked) (hs : c'.buzzSpent = c.buzzSpent)
    (hl : c'.latest = c.latest) : c'.BuzzLocked := by
  unfold BuzzLocked
  rwa [hs, hl]

theorem locked_of_clear {c : Client} {l : Latest} (h : c.latest = l.clear) : c.BuzzLocked :=
  .inr (by rw [h]; nofun)

theorem locked_receive {c : Client} (h : c.BuzzLocked) {text : String}
    (he : ¬ c.Renews (.frame text)) : (c.receive text).1.BuzzLocked := by
  cases hh : c.halted with
  | true =>
    rw [receive_of_halted hh]
    exact h
  | false =>
    cases hi : Inbound.ofText text with
    | error e =>
      rw [receive_of_error hh hi]
      exact h.congr rfl rfl
    | ok i =>
      rw [receive_of_ok hh hi]
      cases i with
      | heartbeat => exact h
      | update g player advisory => exact absurd (.snapshot hh hi) he
      | notice code message =>
        by_cases hm : message = ""
        · subst hm
          exact h
        · rw [take_notice_of_nonempty c code hm]
          exact h.congr rfl rfl
      | failure kind code message =>
        cases kind with
        | rejected =>
          have hcode := Status.code_of_rejected (Inbound.status_of_failure hi)
          exact absurd (.rejection hh hi hcode) he
        | unauthorized =>
          rw [take_unauthorized]
          exact locked_of_clear (l := c.latest) rfl
        | serverError =>
          rw [take_serverError]
          exact h.congr rfl rfl

/-- **Only a renewal unlocks the buzz.** -/
theorem locked_step {c : Client} (h : c.BuzzLocked) {e : Event} (he : ¬ c.Renews e) :
    (c.step e).1.BuzzLocked := by
  cases e with
  | frame text => exact locked_receive h he
  | alarm a =>
    obtain ⟨k, o, w, es, m, ha⟩ := alarm_frame c a
    rw [step_alarm, ha]
    exact h.congr rfl rfl
  | action a =>
    cases hr : c.refusal? a with
    | some r =>
      rw [step_action_of_refused hr]
      exact h
    | none =>
      rw [step_action_of_allowed hr]
      rcases h with h | h
      · exact .inl (by simp [h])
      · exact .inr h
  | refused r => exact h.congr rfl rfl
  | leave => exact locked_of_clear (l := c.latest) rfl
  | reset => exact locked_of_clear (l := c.latest) rfl

/-- A run that unlocks the buzz has a renewal in it. -/
theorem exists_renewal {c : Client} (h : c.BuzzLocked) {es : List Event}
    (hes : ¬ (c.run es).1.BuzzLocked) :
    ∃ pre e post, es = pre ++ e :: post ∧ (c.run pre).1.Renews e := by
  induction es generalizing c with
  | nil => exact absurd h hes
  | cons e es ih =>
    -- the lock is carried on to the rest of the run unless this event is the renewal
    by_cases he : c.Renews e
    · exact ⟨[], e, es, rfl, he⟩
    · obtain ⟨pre, f, post, rfl, hf⟩ := ih (locked_step h he) hes
      exact ⟨e :: pre, f, post, rfl, hf⟩

/-! ### The main result -/

theorem refusal?_of_sent {c : Client} {a : Action} {frame : String}
    (h : (c.prepare a).2 = .ok frame) : c.refusal? a = none := by
  cases hr : c.refusal? a with
  | none => rfl
  | some r =>
    simp only [prepare, hr] at h
    cases h

theorem sent_of_allowed {c : Client} {a : Action} (h : c.refusal? a = none) :
    (c.prepare a).2 = .ok (a.frame c.latest.phase) := by
  simp only [prepare, h]

theorem refusal?_buzz_eq_none_iff (c : Client) (pass : Bool) :
    c.refusal? (.buzz pass) = none ↔ c.halted = false ∧ c.latest.game.paused = false ∧
      c.latest.phase = .buzz ∧ c.latest.player.mayBuzz = true ∧ c.window.isBlocked = false ∧
      c.buzzSpent = false := by
  cases hh : c.halted with
  | true => simp [refusal?, hh]
  | false =>
    simp only [refusal?, hh, permissions, Latest.permissions, Latest.playsIn]
    cases c.latest.player.mayBuzz <;> cases c.latest.game.paused <;> cases c.window.isBlocked <;>
      cases c.buzzSpent <;> simp

theorem locked_of_sent {c : Client} {pass : Bool} {frame : String}
    (h : (c.prepare (.buzz pass)).2 = .ok frame) :
    (c.step (.action (.buzz pass))).1.BuzzLocked := by
  rw [step_action_of_allowed (refusal?_of_sent h)]
  exact .inl rfl

/-- **When a buzz goes out**, in every run.  A buzz or pass is sent only while the session
goes on, the latest snapshot is not paused and open for buzzing, the player may buzz and
the window is open; a snapshot of the run entered this window, and it came after a wrong
guess or the alarm of its entry has come back; and between any two of them that are sent
the server sent a snapshot that was taken over or rejected an action. -/
theorem buzz_sent_in_time (settings : Settings) (es : List Event) {pass : Bool} {frame : String}
    (hsent : (((fresh settings).run es).1.prepare (.buzz pass)).2 = .ok frame) :
    let c := ((fresh settings).run es).1
    (c.halted = false ∧ c.latest.game.paused = false ∧ c.latest.phase = .buzz ∧
      c.latest.player.mayBuzz = true ∧ c.window.status = .open) ∧
    (∃ pre text g later, es = pre ++ .frame text :: later ∧
      Entry ((fresh settings).run pre).1 text g later ∧
      (g.guessedWrong ≠ [] ∨ .alarm ⟨.reading, c.window.generation⟩ ∈ later)) ∧
    ∀ pre pass' frame' mid, es = pre ++ .action (.buzz pass') :: mid →
      (((fresh settings).run pre).1.prepare (.buzz pass')).2 = .ok frame' →
      ∃ mid₁ e mid₂, mid = mid₁ ++ e :: mid₂ ∧
        ((fresh settings).run (pre ++ .action (.buzz pass') :: mid₁)).1.Renews e := by
  intro c
  have hcoupled : c.Coupled := coupled_run settings es
  obtain ⟨hh, hp, hb, hmay, hblocked, hspent⟩ :=
    (refusal?_buzz_eq_none_iff c pass).mp (refusal?_of_sent hsent)
  have hthere : c.window.stage ≠ .closed := hcoupled.stage_iff.mpr ⟨hh, hp, hb⟩
  have hopen : c.window.stage = .open := by
    cases hs : c.window.stage with
    | closed => exact absurd hs hthere
    | blocked n => simp [BuzzWindow.isBlocked, BuzzWindow.status, hs] at hblocked
    | «open» => rfl
  refine ⟨⟨hh, hp, hb, hmay, (BuzzWindow.status_eq_open_iff _).mpr hopen⟩, ?_, ?_⟩
  · obtain ⟨pre, text, g, later, hes, hentry, hwhy⟩ := entered_by settings es hthere
    exact ⟨pre, text, g, later, hes, hentry, hwhy hopen⟩
  · intro pre pass' frame' mid hes hsent'
    have hunlocked : ¬ c.BuzzLocked := by simp [BuzzLocked, hspent, hb]
    -- the earlier buzz locked, so something unlocked between the two
    have hlater :
        c = (((((fresh settings).run pre).1.step (.action (.buzz pass'))).1).run mid).1 := by
      simp [c, hes, run_append]
    rw [hlater] at hunlocked
    obtain ⟨mid₁, e, mid₂, hmid, he⟩ := exists_renewal (locked_of_sent hsent') hunlocked
    exact ⟨mid₁, e, mid₂, hmid, by simpa [run_append] using he⟩

/-- A frame that opens a clue for buzzing, at the first attempt. -/
def buzzFrame : String :=
  "\x7b\"code\":200,\"game\":\x7b\"state\":3,\"round\":0,\"players\":[]\x7d,"
    ++ "\"curPlayer\":\x7b\"id\":\"a\",\"canBuzz\":true\x7d\x7d"

/-- A frame that rejects an action. -/
def rejectionFrame : String := "\x7b\"code\":4400,\"message\":\"too late\"\x7d"

/-- After the clue is read a buzz is sent, and once that is rejected a pass. -/
theorem pass_sent_after_rejection :
    let opened : List Event := [.frame buzzFrame, .alarm ⟨.reading, 1⟩]
    let es := opened ++ .action (.buzz false) :: [.frame rejectionFrame]
    let c := ((fresh .default).run es).1
    (c.prepare (.buzz true)).2 = .ok ((Action.buzz true).frame c.latest.phase) ∧
    c.window.status = .open ∧
    (∃ pre text g later, es = pre ++ .frame text :: later ∧
      Entry ((fresh .default).run pre).1 text g later ∧
      (g.guessedWrong ≠ [] ∨ .alarm ⟨.reading, c.window.generation⟩ ∈ later)) ∧
    ∃ mid₁ e mid₂, [.frame rejectionFrame] = mid₁ ++ e :: mid₂ ∧
      ((fresh .default).run (opened ++ .action (.buzz false) :: mid₁)).1.Renews e := by
  intro opened es
  have hfirst : ((fresh .default).run opened).1.refusal? (.buzz false) = none := by decide +kernel
  have hsecond : ((fresh .default).run es).1.refusal? (.buzz true) = none := by decide +kernel
  have hsent := sent_of_allowed hsecond
  obtain ⟨hnow, hentry, hrenewed⟩ := buzz_sent_in_time .default es hsent
  exact ⟨hsent, hnow.2.2.2.2, hentry,
    hrenewed opened false _ [.frame rejectionFrame] rfl (sent_of_allowed hfirst)⟩

end Client

end QuizClient
