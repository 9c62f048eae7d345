import QuizClient.Proofs.Lines
import QuizClient.Proofs.Publishing

/-!
# What goes out

Frames go out for actions of the player and for nothing else: one for each action that
the client accepts in the state that it is in at that turn.  They wait in order for the
writer, behind the frame that opened the session, and become lines.  Nothing that a player
types ends a line early, so whoever reads the lines finds the frames again.

## Main definitions

* `Host.sends` — the frame that a turn sends.

## Main results

* `turn_frames` — a turn sends at most one frame.
* `turns_frames` — the frames of some turns, in order.
* `advisory_of_refused` — a refused action is shown.
* `outbound_faithful` — **what goes out, in every run.**
-/

namespace QuizClient

namespace Host

/-- The frame that a turn sends: that of an action which the client accepts, while the host
goes on and frames can be sent. -/
def sends (h : Host) (t : Turn) : Option String :=
  match t.input with
  | .command (.act a) =>
    if h.stopped || !t.sending then none else (h.client.prepare a).2.toOption
  | _ => none

/-- A host that has stopped sends nothing. -/
theorem sends_of_stopped {h : Host} (hs : h.stopped = true) (t : Turn) : h.sends t = none := by
  unfold sends
  split <;> simp [hs]

/-- **A turn sends at most one frame**, that of an action it accepts. -/
theorem turn_frames (h : Host) (t : Turn) : (h.turn t).2.frames = (h.sends t).toList := by
  cases hs : h.stopped with
  | true =>
    rw [turn_of_stopped hs, sends_of_stopped hs]
    rfl
  | false =>
    cases took hs t with
    | sent a frame hi hsend ha ht => simp [sends, hi, hs, hsend, ha, ht, Except.toOption]
    | unsent a frame hi hsend ha ht => simp [sends, hi, hsend, ht, Effects.none]
    | refused a r hi ha ht => simp [sends, hi, hs, ha, ht, Effects.wake, Except.toOption]
    | left hi ht =>
      rcases hi with hi | hi <;> simp [sends, hi, ht, Effects.none]
    | frame text hi _ ht => simp [sends, hi, ht, Effects.wake]
    | taken text hi _ ht => simp [sends, hi, ht, Effects.wake]
    | changed a hi _ ht => simp [sends, hi, ht, Effects.wake]
    | unchanged a hi _ ht => simp [sends, hi, ht, Effects.none]
    | reset hi ht => simp [sends, hi, ht, Effects.none]
    | closed hi ht => simp [sends, hi, ht, Effects.none]

/-- **The frames of some turns** are those that each turn sends from where the turns before
it end. -/
theorem turns_frames (h : Host) (ts : List Turn) :
    (h.turns ts).2.frames =
      (ts.mapIdx fun n t => (h.turns (ts.take n)).1.sends t).filterMap id := by
  induction ts generalizing h with
  | nil => rfl
  | cons t ts ih =>
    rw [List.mapIdx_cons, List.filterMap_cons]
    show (h.turn t).2.frames ++ ((h.turn t).1.turns ts).2.frames = _
    rw [turn_frames, ih]
    simp only [List.take_zero, turns_nil, List.take_succ_cons, turns_cons]
    cases h.sends t <;> rfl

/-- **A refused action is shown** like a refusal of the server, and the host goes on. -/
theorem advisory_of_refused {h : Host} (hs : h.stopped = false) {t : Turn} {a : Action}
    {r : Refusal} (hi : t.input = .command (.act a)) (hr : (h.client.prepare a).2 = .error r) :
    (h.turn t).1.stopped = false ∧
      (h.turn t).1.published.advisory = some ⟨.rejected, r.message⟩ := by
  obtain ⟨sending, i⟩ := t
  cases hi
  obtain ⟨c, hc⟩ : ∃ c, h.client.prepare a = (c, .error r) := ⟨_, Prod.ext rfl hr⟩
  have hturn : h.turn ⟨sending, .command (.act a)⟩
      = (h.publish (c.noteRefusal r).1, .wake (c.noteRefusal r).2) := by
    simp [turn, step, act, hs, hc]
  rw [hturn]
  exact ⟨hs, congrArg View.advisory (h.rest_publish _)⟩

/-- What a host sends is the frame of an action. -/
theorem exists_action_of_sends {h : Host} {t : Turn} {f : String} (hf : h.sends t = some f) :
    ∃ a : Action, f = a.frame h.client.latest.phase := by
  unfold sends at hf
  split at hf
  · next a _ =>
    split at hf
    · cases hf
    · refine ⟨a, ?_⟩
      unfold Client.prepare at hf
      cases hr : h.client.refusal? a with
      | some r => simp [hr, Except.toOption] at hf
      | none => simpa [hr, Except.toOption, eq_comm] using hf
  · cases hf

/-- Everything that a host sends is plain. -/
theorem plain_of_sent {h : Host} {ts : List Turn} {f : String} (hf : f ∈ (h.turns ts).2.frames) :
    Text.Plain f.toList := by
  rw [turns_frames, List.mem_filterMap] at hf
  obtain ⟨o, ho, rfl⟩ := hf
  obtain ⟨n, hn, hsends⟩ := List.mem_mapIdx.mp ho
  obtain ⟨a, rfl⟩ := exists_action_of_sends hsends
  exact a.frame_plain _

/-- Everything that waits for the writer is plain. -/
theorem plain_of_queued {h : Host} {ts : List Turn} (token : Option String) :
    ∀ f ∈ (token.map tokenFrame).toList ++ (h.turns ts).2.frames, Text.Plain f.toList := by
  intro f hf
  rcases List.mem_append.mp hf with htoken | hsent
  · rw [Option.mem_toList, Option.map_eq_some_iff] at htoken
    obtain ⟨text, -, rfl⟩ := htoken
    exact tokenFrame_plain text
  · exact plain_of_sent hsent

/-- The turn in a place takes the host from what the turns before it make of it. -/
theorem turns_take_succ {h : Host} {ts : List Turn} {n : Nat} {t : Turn} (ht : ts[n]? = some t) :
    (h.turns (ts.take (n + 1))).1 = ((h.turns (ts.take n)).1.turn t).1 := by
  rw [List.take_add_one, ht, turns_append]
  rfl

/-- **What goes out, in every run.**  Behind the frame with the token, if there is one, the
queue holds one frame for each action that was accepted in the state of its turn, in the
order of the turns, and nothing else; a refused action is shown instead.  The lines of a
writer that never fails give the queue back, and any other writer puts out the beginning of
the same bytes, up to where it fails, and nothing of a later frame. -/
theorem outbound_faithful (settings : Settings) (token : Option String) (ts : List Turn) :
    let host (n : Nat) := ((Host.fresh settings).turns (ts.take n)).1
    let frames := ((Host.fresh settings).turns ts).2.frames
    let queue := (token.map tokenFrame).toList ++ frames
    let bytes := ((Writer.fresh .unlimited).lines queue).2
    frames = (ts.mapIdx fun n t => (host n).sends t).filterMap id ∧
    (∀ n t a r, ts[n]? = some t → (host n).stopped = false → t.input = .command (.act a) →
      ((host n).client.prepare a).2 = .error r →
        (host n).sends t = none ∧ (host (n + 1)).stopped = false ∧
        (host (n + 1)).published.advisory = some ⟨.rejected, r.message⟩) ∧
    (bytes.splitOn Text.lineFeed).map Text.ofUtf8? = (queue ++ [""]).map some ∧
    (∀ n, ((Writer.fresh (.bytes n)).lines queue).2 = bytes.take n) ∧
    ∀ budget, ((Writer.fresh budget).lines queue).2 <+: bytes ∧
      ∀ before after, queue = before ++ after →
        ((Writer.fresh budget).lines before).1.working = false →
          ((Writer.fresh budget).lines queue).2 = ((Writer.fresh budget).lines before).2 := by
  intro host frames queue bytes
  have hbytes : bytes = Writer.linesOf queue := congrArg Prod.snd (Writer.lines_unlimited queue)
  refine ⟨turns_frames _ ts, fun n t a r ht hs hi hr => ?_, ?_, fun n => ?_, fun budget => ⟨?_, ?_⟩⟩
  · have hnext : host (n + 1) = ((host n).turn t).1 := turns_take_succ ht
    rw [hnext]
    exact ⟨by simp [sends, hi, hr, Except.toOption], advisory_of_refused hs hi hr⟩
  · rw [hbytes]
    exact Writer.splitOn_linesOf (plain_of_queued token)
  · rw [hbytes]
    exact Writer.lines_bytes n queue
  · rw [hbytes]
    exact Writer.lines_prefix _ queue
  · intro before after hqueue hfailed
    rw [hqueue, Writer.lines_append, Writer.lines_of_failed hfailed, List.append_nil]

end Host

end QuizClient
