import QuizClient.Proofs.Buzzing
import QuizClient.Proofs.Replacement

/-!
# Frames without a snapshot

Between the snapshots the server tells that it is alive, says something, or reports a failure.
Such frames come at any moment, with the countdown, the buzz window and the score changes on
their way, and none of it is touched: a heartbeat and an empty notice leave the client as it is,
a message takes the place of the one before and is taken down in its turn, and a rejection lets
the player buzz again.  Only the end of a session, which is told without a snapshot too, does
more than that.

## Main definitions

* `Inbound.Tells` — which message is shown of an envelope without a snapshot, and whether it
  rejects an action.
* `FramesTell` — the same for the frames that come one after the other.
* `Client.told`, `Client.tellWakes` — the client that was told messages, and its alarms.

## Main results

* `take_of_tells` — what one such envelope does.
* `told_told` — messages add up.
* `run_of_tells` — what any number of such frames do.
* `messages_touch_nothing_else` — **frames without a snapshot touch nothing but the message.**
-/

namespace QuizClient

/-- Which messages are shown of an envelope that brings no snapshot and ends no session, and
whether it rejects an action. -/
inductive Inbound.Tells : Inbound → List Advisory → Bool → Prop
  /-- The connection is alive. -/
  | heartbeat : Tells .heartbeat [] false
  /-- A notice that says nothing. -/
  | silence (code : Int64) : Tells (.notice code "") [] false
  /-- A notice. -/
  | notice (code : Int64) (message : String) (h : message ≠ "") :
      Tells (.notice code message) [⟨.info, message⟩] false
  /-- The server failed. -/
  | serverError (code : Int64) (message : String) :
      Tells (.failure .serverError code message) [⟨.serverError, message⟩] false
  /-- An action was rejected. -/
  | rejected (code : Int64) (message : String) :
      Tells (.failure .rejected code message) [⟨.rejected, message⟩] true

/-- An envelope brings a snapshot, refuses the session or tells messages. -/
theorem Inbound.exists_tells {i : Inbound} (hu : ∀ g p advisory, i ≠ .update g p advisory)
    (hf : ∀ code message, i ≠ .failure .unauthorized code message) : ∃ ms r, i.Tells ms r := by
  cases i with
  | heartbeat => exact ⟨_, _, .heartbeat⟩
  | update g p advisory => exact absurd rfl (hu g p advisory)
  | notice code message =>
    by_cases hm : message = ""
    · subst hm
      exact ⟨_, _, .silence code⟩
    · exact ⟨_, _, .notice code message hm⟩
  | failure kind code message =>
    cases kind with
    | rejected => exact ⟨_, _, .rejected code message⟩
    | unauthorized => exact absurd rfl (hf code message)
    | serverError => exact ⟨_, _, .serverError code message⟩

/-- Which messages frames show that come one after the other, none with a snapshot and none
that ends the session, and whether one of them rejects an action. -/
inductive FramesTell : List String → List Advisory → Bool → Prop
  /-- There are none. -/
  | nil : FramesTell [] [] false
  /-- One more comes first. -/
  | cons {text : String} {texts : List String} {i : Inbound} {ms ms' : List Advisory} {r r' : Bool}
      (hi : Inbound.ofText text = .ok i) (h : i.Tells ms r) (rest : FramesTell texts ms' r') :
      FramesTell (text :: texts) (ms ++ ms') (r || r')

namespace Client

/-! ### Messages that a client is told -/

/-- The client that was told messages: the last of them is shown, and a buzz may go out again
when one rejected an action. -/
def told (c : Client) (ms : List Advisory) (rejects : Bool) : Client :=
  { c with
    advisory := ms.getLast?.or c.advisory
    advisoryGeneration := c.advisoryGeneration + ms.length
    buzzSpent := c.buzzSpent && !rejects }

/-- The alarms that take the messages down, each of a generation of its own. -/
def tellWakes (c : Client) (ms : List Advisory) : List Wake :=
  (List.range' (c.advisoryGeneration + 1) ms.length).map fun n =>
    Timeline.advisory.wake n c.settings.advisoryWindow

variable (c : Client)

@[simp] theorem told_nil : c.told [] false = c := by
  simp [told]

@[simp] theorem told_message (a : Advisory) :
    c.told [a] false =
      { c with advisory := some a, advisoryGeneration := c.advisoryGeneration + 1 } := by
  simp [told]

@[simp] theorem told_rejection (a : Advisory) :
    c.told [a] true =
      { c with
        advisory := some a
        advisoryGeneration := c.advisoryGeneration + 1
        buzzSpent := false } := by
  simp [told]

/-- **Messages add up.** -/
theorem told_told (ms ms' : List Advisory) (r r' : Bool) :
    (c.told ms r).told ms' r' = c.told (ms ++ ms') (r || r') := by
  simp [told, Option.or_assoc, Nat.add_assoc, Bool.and_assoc]

/-- So do their alarms. -/
theorem tellWakes_told (ms ms' : List Advisory) (r : Bool) :
    c.tellWakes ms ++ (c.told ms r).tellWakes ms' = c.tellWakes (ms ++ ms') := by
  have hnext : c.advisoryGeneration + ms.length + 1 = c.advisoryGeneration + 1 + ms.length := by
    omega
  simp only [tellWakes, told, hnext, List.length_append, ← List.map_append,
    List.range'_append_1]

/-! ### What the frames do -/

variable {c} {i : Inbound} {ms : List Advisory} {r : Bool}

/-- **What an envelope without a snapshot does**: it tells the client its message. -/
theorem take_of_tells (h : i.Tells ms r) :
    c.take i = (c.told ms r, ⟨ms.head?, none, false⟩, c.tellWakes ms) := by
  cases h with
  | heartbeat =>
    rw [told_nil]
    rfl
  | silence code =>
    rw [told_nil]
    rfl
  | notice code message hm =>
    rw [take_notice_of_nonempty c code hm]
    simp [surface, tellWakes, AdvisoryKind.isPassing, Outcome.advise]
  | serverError code message =>
    rw [take_serverError]
    simp [surface, tellWakes, AdvisoryKind.isPassing, Outcome.advise]
  | rejected code message =>
    rw [take_rejected]
    simp [surface, tellWakes, AdvisoryKind.isPassing, Outcome.advise]

theorem receive_of_tells (hh : c.halted = false) {text : String}
    (hi : Inbound.ofText text = .ok i) (h : i.Tells ms r) :
    c.receive text = (c.told ms r, ⟨ms.head?, none, false⟩, c.tellWakes ms) :=
  (receive_of_ok hh hi).trans (take_of_tells h)

/-- **What any number of such frames do**: they tell the client their messages, one after the
other. -/
theorem run_of_tells (hh : c.halted = false) {texts : List String} (h : FramesTell texts ms r) :
    c.run (texts.map .frame) = (c.told ms r, c.tellWakes ms) := by
  induction h generalizing c with
  | nil =>
    rw [told_nil]
    rfl
  | @cons text texts i ms ms' r r' hi hone _ ih =>
    have hgoes : (c.told ms r).halted = false := hh
    simp only [List.map_cons, run_cons, step_frame, receive_of_tells hh hi hone, ih hgoes,
      told_told, tellWakes_told]

/-! ### The main result -/

/-- **Frames without a snapshot touch nothing but the message.**  In every run a client that is
not halted stays exactly as it is when a heartbeat comes or a notice that says nothing.  Another
notice, or a failure of the server, takes the place of the message and of its generation, and
the alarm that takes it down is all that is set; a rejection lets a buzz go out again besides.
However many such frames come, the settings, the snapshots and their number, the countdown and
its owner, the buzz window, the score changes, the vote, the place gone to and the halt are as
they were, and one alarm is set for each message that was shown. -/
theorem messages_touch_nothing_else (settings : Settings) (es : List Event)
    (hh : ((fresh settings).run es).1.halted = false) :
    let c := ((fresh settings).run es).1
    let showing (a : Advisory) : Client :=
      { c with advisory := some a, advisoryGeneration := c.advisoryGeneration + 1 }
    let generation := c.advisoryGeneration + 1
    let wake (n : Nat) := Timeline.advisory.wake n settings.advisoryWindow
    (∀ text, Inbound.ofText text = .ok .heartbeat → c.receive text = (c, .quiet, [])) ∧
    (∀ text code, Inbound.ofText text = .ok (.notice code "") →
      c.receive text = (c, .quiet, [])) ∧
    (∀ text code message, message ≠ "" → Inbound.ofText text = .ok (.notice code message) →
      c.receive text = (showing ⟨.info, message⟩, .advise ⟨.info, message⟩, [wake generation])) ∧
    (∀ text code message, Inbound.ofText text = .ok (.failure .serverError code message) →
      c.receive text
        = (showing ⟨.serverError, message⟩, .advise ⟨.serverError, message⟩, [wake generation])) ∧
    (∀ text code message, Inbound.ofText text = .ok (.failure .rejected code message) →
      c.receive text = ({ showing ⟨.rejected, message⟩ with buzzSpent := false },
        .advise ⟨.rejected, message⟩, [wake generation])) ∧
    ∀ texts ms r, FramesTell texts ms r →
      let d := (c.run (texts.map .frame)).1
      (d.settings = c.settings ∧ d.latest = c.latest ∧ d.countdown = c.countdown ∧
        d.owner = c.owner ∧ d.window = c.window ∧ d.changes = c.changes ∧
        d.disputePrompt = c.disputePrompt ∧ d.navigation = c.navigation ∧
        d.halted = c.halted) ∧
      (d.advisory = ms.getLast?.or c.advisory ∧
        d.advisoryGeneration = c.advisoryGeneration + ms.length ∧
        d.buzzSpent = (c.buzzSpent && !r)) ∧
      (c.run (texts.map .frame)).2 = (List.range' generation ms.length).map wake := by
  intro c showing generation wake
  have hwindow : c.settings.advisoryWindow = settings.advisoryWindow :=
    congrArg Settings.advisoryWindow (settings_run settings es)
  have hwakes : ∀ ms, c.tellWakes ms = (List.range' generation ms.length).map wake := fun ms => by
    rw [tellWakes, hwindow]
  have hone : ∀ a, c.tellWakes [a] = [wake generation] := fun a => hwakes [a]
  refine ⟨fun text hi => ?_, fun text code hi => ?_, fun text code message hm hi => ?_,
    fun text code message hi => ?_, fun text code message hi => ?_, fun texts ms r h => ?_⟩
  · rw [receive_of_tells hh hi .heartbeat, told_nil]
    rfl
  · rw [receive_of_tells hh hi (.silence code), told_nil]
    rfl
  · rw [receive_of_tells hh hi (.notice code message hm), hone, told_message]
    rfl
  · rw [receive_of_tells hh hi (.serverError code message), hone, told_message]
    rfl
  · rw [receive_of_tells hh hi (.rejected code message), hone, told_rejection]
    rfl
  · rw [run_of_tells hh h, hwakes]
    exact ⟨⟨rfl, rfl, rfl, rfl, rfl, rfl, rfl, rfl, rfl⟩, ⟨rfl, rfl, rfl⟩, rfl⟩

/-- A heartbeat. -/
def pingFrame : String := "\x7b\"code\":200,\"message\":\"ping\"\x7d"

/-- A heartbeat and a rejection come while the countdown ticks: it goes on, the player may buzz
again, and the one message is taken down in its turn. -/
theorem rejection_after_heartbeat :
    let es : List Event := [.frame buzzFrame, .alarm ⟨.reading, 1⟩, .action (.buzz false)]
    let c := ((fresh .default).run es).1
    let frames := [pingFrame, rejectionFrame].map Event.frame
    let d := (c.run frames).1
    (c.countdown.isRunning = true ∧ c.buzzSpent = true) ∧
    (d.countdown = c.countdown ∧ d.window = c.window ∧ d.buzzSpent = false ∧
      d.advisory = some ⟨.rejected, "too late"⟩) ∧
    (c.run frames).2
      = [Timeline.advisory.wake (c.advisoryGeneration + 1) Settings.default.advisoryWindow] := by
  intro es
  have hh : ((fresh .default).run es).1.halted = false := by decide +kernel
  have hbefore : ((fresh .default).run es).1.countdown.isRunning = true ∧
      ((fresh .default).run es).1.buzzSpent = true := by decide +kernel
  have hping : Inbound.ofText pingFrame = .ok .heartbeat := by decide +kernel
  have hrejection : Inbound.ofText rejectionFrame = .ok (.failure .rejected 4400 "too late") := by
    decide +kernel
  obtain ⟨-, -, -, -, -, hframes⟩ := messages_touch_nothing_else .default es hh
  obtain ⟨⟨-, -, hcountdown, -, hwindow, -⟩, ⟨hadvisory, -, hbuzz⟩, hwakes⟩ :=
    hframes _ _ _ (.cons hping .heartbeat (.cons hrejection (.rejected 4400 "too late") .nil))
  exact ⟨hbefore, ⟨hcountdown, hwindow, hbuzz.trans (Bool.and_false _), hadvisory⟩, hwakes⟩

end Client

end QuizClient
