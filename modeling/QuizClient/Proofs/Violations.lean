import QuizClient.Proofs.Buzzing
import QuizClient.Proofs.Classification
import QuizClient.Proofs.Halting

/-!
# Frames that cannot be trusted

A frame is read as a whole before anything of it is taken over.  What is wrong with one, of
which the client then speaks, may be found late: a game may be read and the player behind it
not.  Of such a frame nothing is taken over, and what it leaves behind is a client for which
no alarm that is still on its way does more than take down the score changes.

## Main definitions

* `Envelope.NeedsSnapshots` — an envelope that tells of snapshots.
* `Inbound.Violates` — what is wrong with a text.
* `Client.Inert` — a client for which alarms do next to nothing.

## Main results

* `Inbound.violates_iff` — which errors reading a text reports.
* `Inert.run_alarms` — what alarms do to an inert client.
* `violation_applies_nothing` — **a frame that cannot be trusted applies nothing.**
-/

namespace QuizClient

open Json

/-! ### What is wrong with a text -/

/-- An envelope that tells of snapshots: it reports no failure, is no heartbeat, and is not of
those that may come without snapshots and do so. -/
structure Envelope.NeedsSnapshots (e : Envelope) : Prop where
  /-- The code is known. -/
  known : 0 ≤ e.code
  /-- It reports no failure. -/
  unfailed : e.code < 4400
  /-- The envelope is no heartbeat. -/
  speaks : e.message ≠ heartbeatMessage
  /-- The code wants snapshots, or both are there. -/
  wanted : e.code = 200 ∨ 4100 ≤ e.code ∧ e.code ≤ 4399 ∨ e.game ≠ none ∧ e.player ≠ none

namespace Inbound

/-- What is wrong with a text that cannot be trusted. -/
inductive Violates (text : String) : ProtocolError → Prop
  /-- It is no envelope. -/
  | malformed (f : Fault) (hf : Envelope.ofText text = .error f) : Violates text (.malformed f)
  /-- Its code is negative. -/
  | unknownCode (e : Envelope) (he : Envelope.ofText text = .ok e) (hneg : e.code < 0) :
      Violates text (.unknownCode e.code)
  /-- It needs a game and has none. -/
  | missingGame (e : Envelope) (he : Envelope.ofText text = .ok e) (hn : e.NeedsSnapshots)
      (hgame : e.game = none) : Violates text (.missingSnapshot e.code "game")
  /-- It needs a game, which cannot be read. -/
  | invalidGame (e : Envelope) (he : Envelope.ofText text = .ok e) (hn : e.NeedsSnapshots)
      (v : Value) (hgame : e.game = some v) (f : Fault) (hf : Game.codec.read v = .error f) :
      Violates text (.invalidSnapshot "game" f)
  /-- Its game can be read, but it has no player. -/
  | missingPlayer (e : Envelope) (he : Envelope.ofText text = .ok e) (hn : e.NeedsSnapshots)
      (v : Value) (hgame : e.game = some v) (g : Game) (hg : Game.codec.read v = .ok g)
      (hplayer : e.player = none) : Violates text (.missingSnapshot e.code "curPlayer")
  /-- Its game can be read, but its player cannot. -/
  | invalidPlayer (e : Envelope) (he : Envelope.ofText text = .ok e) (hn : e.NeedsSnapshots)
      (v : Value) (hgame : e.game = some v) (g : Game) (hg : Game.codec.read v = .ok g)
      (w : Value) (hplayer : e.player = some w) (f : Fault)
      (hf : Player.codec.read w = .error f) : Violates text (.invalidSnapshot "curPlayer" f)

variable {text : String} {e : Envelope}

theorem ofText_of_envelope (he : Envelope.ofText text = .ok e) : ofText text = ofEnvelope e := by
  rw [ofText, he]
  rfl

/-- What an envelope that needs snapshots tells is up to them. -/
theorem snapshots_of_needs (he : Envelope.ofText text = .ok e) (hn : e.NeedsSnapshots) :
    ∃ shown, Snapshots e shown (ofText text) := by
  obtain ⟨status, hstatus, hgoes, -⟩ := Status.ofCode_of_lt hn.known hn.unfailed
  have hneeded : ¬ (status = .other ∧ (e.game = none ∨ e.player = none)) := by
    rintro ⟨hother, habsent⟩
    obtain ⟨h200, hinfo⟩ := (Status.other_iff hstatus hn.unfailed).mp hother
    rcases hn.wanted with h | h | ⟨hgame, hplayer⟩
    · exact h200 h
    · exact hinfo h
    · exact habsent.elim hgame hplayer
  rw [ofText_of_envelope he, ofEnvelope_of_needed hstatus hgoes hn.speaks hneeded]
  exact ⟨_, snapshots_of_needed e _⟩

/-- An envelope that is not of a negative code and needs no snapshots can be trusted. -/
theorem ofEnvelope_of_unneeded (hcode : 0 ≤ e.code) (hn : ¬ e.NeedsSnapshots) :
    ∃ i, ofEnvelope e = .ok i := by
  by_cases hfailed : 4400 ≤ e.code
  · obtain ⟨kind, hkind, -⟩ := Status.ofCode_of_failure hfailed
    exact ⟨_, ofEnvelope_of_failed hkind⟩
  have hlow : e.code < 4400 := Int64.not_le.mp hfailed
  obtain ⟨status, hstatus, hgoes, -⟩ := Status.ofCode_of_lt hcode hlow
  by_cases hm : e.message = heartbeatMessage
  · exact ⟨_, ofEnvelope_of_heartbeat hstatus hgoes hm⟩
  have hunwanted : ¬ (e.code = 200 ∨ 4100 ≤ e.code ∧ e.code ≤ 4399 ∨
      e.game ≠ none ∧ e.player ≠ none) := fun hwanted => hn ⟨hcode, hlow, hm, hwanted⟩
  push Not at hunwanted
  obtain ⟨h200, hinfo, habsent⟩ := hunwanted
  have hother : status = .other :=
    (Status.other_iff hstatus hlow).mpr ⟨h200, fun h => hinfo h.1 h.2⟩
  rw [hother] at hstatus
  exact ⟨_, ofEnvelope_of_absent hstatus hm (Classical.or_iff_not_imp_left.mpr habsent)⟩

/-- **Which errors reading a text reports**: the first of what is wrong with it. -/
theorem violates_iff {err : ProtocolError} : ofText text = .error err ↔ Violates text err := by
  constructor
  · intro h
    cases he : Envelope.ofText text with
    | error f =>
      rw [ofText, he] at h
      cases h
      exact .malformed f he
    | ok e =>
      by_cases hneg : e.code < 0
      · rw [ofText_of_envelope he, ofEnvelope, Status.ofCode_of_neg hneg] at h
        cases h
        exact .unknownCode e he hneg
      by_cases hn : e.NeedsSnapshots
      · obtain ⟨shown, hs⟩ := snapshots_of_needs he hn
        cases hgame : e.game with
        | none =>
          cases h.symm.trans (hs.missingGame hgame)
          exact .missingGame e he hn hgame
        | some v =>
          cases hg : Game.codec.read v with
          | error f =>
            cases h.symm.trans (hs.invalidGame v f hgame hg)
            exact .invalidGame e he hn v hgame f hg
          | ok g =>
            cases hplayer : e.player with
            | none =>
              cases h.symm.trans (hs.missingPlayer v g hgame hg hplayer)
              exact .missingPlayer e he hn v hgame g hg hplayer
            | some w =>
              cases hw : Player.codec.read w with
              | error f =>
                cases h.symm.trans (hs.invalidPlayer v g w f hgame hg hplayer hw)
                exact .invalidPlayer e he hn v hgame g hg w hplayer f hw
              | ok p =>
                have hok := (hs.update g p shown).mpr ⟨⟨v, hgame, hg⟩, ⟨w, hplayer, hw⟩, rfl⟩
                cases h.symm.trans hok
      · obtain ⟨i, hi⟩ := ofEnvelope_of_unneeded (Int64.not_lt.mp hneg) hn
        rw [ofText_of_envelope he, hi] at h
        cases h
  · intro h
    cases h with
    | malformed f hf =>
      rw [ofText, hf]
      rfl
    | unknownCode e he hneg =>
      rw [ofText_of_envelope he, ofEnvelope, Status.ofCode_of_neg hneg]
      rfl
    | missingGame e he hn hgame =>
      obtain ⟨shown, hs⟩ := snapshots_of_needs he hn
      exact hs.missingGame hgame
    | invalidGame e he hn v hgame f hf =>
      obtain ⟨shown, hs⟩ := snapshots_of_needs he hn
      exact hs.invalidGame v f hgame hf
    | missingPlayer e he hn v hgame g hg hplayer =>
      obtain ⟨shown, hs⟩ := snapshots_of_needs he hn
      exact hs.missingPlayer v g hgame hg hplayer
    | invalidPlayer e he hn v hgame g hg w hplayer f hf =>
      obtain ⟨shown, hs⟩ := snapshots_of_needs he hn
      exact hs.invalidPlayer v g w f hgame hg hplayer hf

end Inbound

namespace Client

/-! ### What is left for alarms to do -/

/-- A client at rest whose message stays: only the score changes can be taken down. -/
structure Inert (c : Client) : Prop extends Resting c where
  /-- The message, if there is one, does not disappear by itself. -/
  lasting : c.advisory.any (·.kind.isPassing) = false

namespace Inert

variable {c : Client}

/-- An alarm may take down the score changes, and does nothing else. -/
theorem alarm (h : c.Inert) (a : Alarm) :
    (∃ s, (c.alarm a).1 = { c with changes := s }) ∧ (c.alarm a).2.2 = [] := by
  obtain ⟨t, n⟩ := a
  cases t with
  | countdown =>
    rw [(h.alarm_eq n).1]
    exact ⟨⟨c.changes, rfl⟩, rfl⟩
  | reading =>
    rw [(h.alarm_eq n).2]
    exact ⟨⟨c.changes, rfl⟩, rfl⟩
  | scores => exact ⟨⟨_, rfl⟩, rfl⟩
  | advisory =>
    have hnot : (c.position .advisory).standing ≠ .due n := fun hdue => by
      have hpassing := ((advisory_due_iff c n).mp hdue).2
      rw [h.lasting] at hpassing
      cases hpassing
    rw [alarm_eq_of_not_due hnot]
    exact ⟨⟨c.changes, rfl⟩, rfl⟩

/-- **No alarms, however many, do more than take down the score changes.** -/
theorem run_alarms (h : c.Inert) (as : List Alarm) :
    (∃ s, (c.run (as.map .alarm)).1 = { c with changes := s }) ∧
      (c.run (as.map .alarm)).2 = [] := by
  induction as generalizing c with
  | nil => exact ⟨⟨c.changes, rfl⟩, rfl⟩
  | cons a as ih =>
    obtain ⟨⟨s, hs⟩, hasked⟩ := h.alarm a
    have hinert : { c with changes := s }.Inert := ⟨h.toResting.congr rfl rfl rfl, h.lasting⟩
    obtain ⟨⟨s', hs'⟩, hasked'⟩ := ih hinert
    rw [List.map_cons, run_cons, step_alarm, hs, hasked, hs', hasked']
    exact ⟨⟨s', rfl⟩, rfl⟩

end Inert

/-! ### The main result -/

/-- A session that was halted has nothing left for alarms to do. -/
theorem inert_halt (c : Client) (e : ProtocolError) : (c.halt e).1.Inert :=
  ⟨⟨rfl, rfl, rfl⟩, rfl⟩

/-- **A frame that cannot be trusted applies nothing.**  In every run a client that is not
halted takes a frame that cannot be read, for one of the things that can be wrong with it and
however late that is found.  The snapshots and their number, the score changes, the buzz and the
place gone to stay as they are; no alarm is set; the session is halted, without a countdown, a
buzz window or a vote; and the one message there is, to be shown and on display, is fatal and
says what is wrong.  The alarms still on their way then take down the score changes at most. -/
theorem violation_applies_nothing (settings : Settings) (es : List Event)
    (hh : ((fresh settings).run es).1.halted = false) {text : String} {e : ProtocolError}
    (he : Inbound.ofText text = .error e) :
    let c := ((fresh settings).run es).1
    let d := (c.receive text).1
    (∀ err, Inbound.ofText text = .error err ↔ Inbound.Violates text err) ∧
    (d.latest = c.latest ∧ d.changes = c.changes ∧ d.buzzSpent = c.buzzSpent ∧
      d.navigation = c.navigation) ∧
    (c.receive text).2.2 = [] ∧
    (d.halted = true ∧ d.countdown.remaining = none ∧ d.window.status = .closed ∧
      d.disputePrompt = false) ∧
    ((c.receive text).2.1 = ⟨some ⟨.fatal, e.message⟩, none, false⟩ ∧
      d.view.advisory = some ⟨.fatal, e.message⟩) ∧
    ∀ as : List Alarm, (∃ s, (d.run (as.map .alarm)).1 = { d with changes := s }) ∧
      (d.run (as.map .alarm)).2 = [] := by
  intro c d
  have hr : c.receive text = ((c.halt e).1, .advise e.advisory, (c.halt e).2) :=
    receive_of_error hh he
  have hd : d = (c.halt e).1 := congrArg (·.1) hr
  have hinert : d.Inert := hd ▸ inert_halt c e
  refine ⟨fun _ => Inbound.violates_iff, ?_, ?_, ⟨?_, hinert.remaining_eq, hinert.status_eq, ?_⟩,
    ⟨?_, ?_⟩, hinert.run_alarms⟩
  · rw [hd]
    exact ⟨rfl, rfl, rfl, rfl⟩
  · rw [hr]
    rfl
  · rw [hd]
    rfl
  · rw [hd]
    rfl
  · rw [hr]
    rfl
  · rw [hd]
    rfl

/-- A frame with a game that can be read and a player that cannot. -/
def halfFrame : String :=
  "\x7b\"code\":200,\"game\":\x7b\"state\":2,\"round\":0,\"players\":[]\x7d,"
    ++ "\"curPlayer\":\x7b\"id\":1\x7d\x7d"

/-- The game of a frame is not taken over when its player cannot be read: the clue that the
player buzzed for stays on record, and the tick on its way revives nothing. -/
theorem half_frame_applies_nothing :
    let es : List Event := [.frame buzzFrame, .alarm ⟨.reading, 1⟩, .action (.buzz false)]
    let c := ((fresh .default).run es).1
    let d := (c.receive halfFrame).1
    let fault := ProtocolError.invalidSnapshot "curPlayer"
      (.wrongKind (.number (.integer 1)) .string)
    (c.countdown.isRunning = true ∧ c.buzzSpent = true ∧ c.latest.phase = .buzz) ∧
    (d.countdown.remaining = none ∧ d.buzzSpent = true ∧ d.latest.phase = .buzz) ∧
    Inbound.Violates halfFrame fault ∧ d.view.advisory = some ⟨.fatal, fault.message⟩ ∧
    (d.run ([⟨.countdown, c.countdown.generation⟩].map Event.alarm)).2 = [] := by
  intro es
  have hh : ((fresh .default).run es).1.halted = false := by decide +kernel
  have he : Inbound.ofText halfFrame =
      .error (.invalidSnapshot "curPlayer" (.wrongKind (.number (.integer 1)) .string)) := by
    decide +kernel
  have hbefore : ((fresh .default).run es).1.countdown.isRunning = true ∧
      ((fresh .default).run es).1.buzzSpent = true ∧
      ((fresh .default).run es).1.latest.phase = .buzz := by decide +kernel
  obtain ⟨hviolates, ⟨hlatest, -, hbuzz, -⟩, -, ⟨-, hcountdown, -⟩, ⟨-, hadvisory⟩, halarms⟩ :=
    violation_applies_nothing .default es hh he
  exact ⟨hbefore, ⟨hcountdown, hbuzz.trans hbefore.2.1,
    (congrArg Latest.phase hlatest).trans hbefore.2.2⟩, (hviolates _).mp he, hadvisory,
    (halarms _).2⟩

end Client

end QuizClient
