import Mathlib.Data.List.Nodup
import QuizClient.Console.Host
import QuizClient.Proofs.Differences
import QuizClient.Proofs.Replacement

/-!
# What a host publishes

A host takes one input after another, and whoever shows the game sees only the views
that it publishes.  It publishes in several places and not in every turn: an alarm that
says that nothing changed publishes nothing, and neither does the end of the frames.  Nor is
a view published when the one before is the same, score changes in another order being the
same.  The view published last nevertheless shows what the client shows, after every turn but
one: an action that was accepted and can no longer be sent stops the host on the spot.  Only
the order of the score changes may be an earlier one.

## Main definitions

* `View.Reorders` — two views are the same but for the order of the score changes.
* `Turn`, `Host.turns` — what a host takes at a time, and some of them in order.
* `Host.result` — the view that a host gives back once it has stopped.
* `Host.Took` — what can happen in a turn.
* `Host.Unsent`, `Host.Stops` — why a host stops.

## Main results

* `same_iff` — views that compare as the same are the same but for that order.
* `receive_navigate_iff` — which frames take the player elsewhere.
* `took` — **what can happen in a turn.**
* `turn_event` — a turn is an event of the client, or nothing to it.
* `stops_iff` — which turns stop a host.
* `Current.published_turn`, `Current.turn` — what a turn publishes, and that it is current.
* `published_current` — **the published view is current, in every run.**
-/

namespace QuizClient

/-! ### Views that are the same -/

/-- A player's change is found by the player when no player has two. -/
theorem lookup_of_mem {es : List (String × Int)} (hes : (es.map Prod.fst).Nodup)
    {e : String × Int} (he : e ∈ es) : es.lookup e.1 = some e.2 := by
  induction es with
  | nil => cases he
  | cons f es ih =>
    rw [List.map_cons, List.nodup_cons] at hes
    rcases List.mem_cons.mp he with rfl | hmem
    · exact List.lookup_cons_self
    · have hother : (e.1 == f.1) = false := by
        rw [beq_eq_false_iff_ne]
        intro heq
        exact hes.1 (heq ▸ List.mem_map_of_mem hmem)
      rw [List.lookup_cons, hother]
      exact ih hes.2 hmem

/-- Score changes compare as the same when they are the same in some order. -/
theorem sameChanges_iff {es fs : List (String × Int)} (hes : (es.map Prod.fst).Nodup)
    (hfs : (fs.map Prod.fst).Nodup) : sameChanges es fs = true ↔ es.Perm fs := by
  simp only [sameChanges, Bool.and_eq_true, beq_iff_eq, List.all_eq_true]
  constructor
  · rintro ⟨hlength, hall⟩
    have hsub : es ⊆ fs := fun e he => by
      obtain ⟨before, after, rfl, -⟩ := List.lookup_eq_some_iff.mp (hall e he)
      exact List.mem_append_right _ (List.mem_cons_self ..)
    have hsubperm : es.Subperm fs := List.subperm_of_subset (.of_map _ hes) hsub
    exact hsubperm.perm_of_length_le (Nat.le_of_eq hlength.symm)
  · intro h
    exact ⟨h.length_eq, fun e he => lookup_of_mem hfs (h.subset he)⟩

namespace View

/-- No player has two score changes. -/
def Distinct (v : View) : Prop := (v.changes.map Prod.fst).Nodup

/-- Two views are the same but for the order of the score changes. -/
structure Reorders (v w : View) : Prop where
  /-- All but the score changes is the same. -/
  rest : { v with changes := w.changes } = w
  /-- The score changes are the same in some order. -/
  changes : v.changes.Perm w.changes

theorem Reorders.refl (v : View) : v.Reorders v := ⟨rfl, .refl _⟩

theorem Reorders.countdown_eq {v w : View} (h : v.Reorders w) : v.countdown = w.countdown := by
  rw [← h.rest]

theorem Reorders.window_eq {v w : View} (h : v.Reorders w) : v.window = w.window := by
  rw [← h.rest]

theorem Reorders.permissions_eq {v w : View} (h : v.Reorders w) :
    v.permissions = w.permissions := by
  rw [← h.rest]

theorem Reorders.distinct {v w : View} (h : v.Reorders w) (hw : w.Distinct) : v.Distinct :=
  (h.changes.map Prod.fst).nodup_iff.mpr hw

/-- **Views that compare as the same** are the same but for the order of the score changes. -/
theorem same_iff {v w : View} (hv : v.Distinct) (hw : w.Distinct) :
    v.same w = true ↔ v.Reorders w := by
  rw [same, Bool.and_eq_true, beq_iff_eq, sameChanges_iff hv hw]
  exact ⟨fun ⟨hrest, hchanges⟩ => ⟨hrest, hchanges⟩, fun h => ⟨h.rest, h.changes⟩⟩

end View

/-- A client never shows two score changes of one player. -/
theorem Client.Reachable.distinct {settings : Settings} {c : Client}
    (h : Client.Reachable settings c) : c.view.Distinct := by
  obtain ⟨es, rfl⟩ := h
  exact (changes_arise settings es).proper.2.distinct

/-! ### Turns -/

/-- What a host takes at a time: an input, and whether frames can still be sent then. -/
structure Turn where
  /-- Whether frames can still be sent. -/
  sending : Bool
  /-- The input. -/
  input : Input
  deriving DecidableEq, Repr

namespace Host

/-- Takes one turn. -/
def turn (h : Host) (t : Turn) : Host × Effects := h.step t.sending t.input

/-- Takes turns in order. -/
def turns (h : Host) : List Turn → Host × Effects
  | [] => (h, .none)
  | t :: ts =>
    let (h, first) := h.turn t
    let (h, rest) := h.turns ts
    (h, first.append rest)

/-- The view that a host gives back once it has stopped; it takes no turn after that. -/
def result (h : Host) : List Turn → Option View
  | [] => if h.stopped then some h.published else none
  | t :: ts => if h.stopped then some h.published else (h.turn t).1.result ts

@[simp] theorem turns_nil (h : Host) : h.turns [] = (h, .none) := rfl

@[simp] theorem turns_cons (h : Host) (t : Turn) (ts : List Turn) :
    h.turns (t :: ts)
      = (((h.turn t).1.turns ts).1, (h.turn t).2.append ((h.turn t).1.turns ts).2) := rfl

/-- Turns in two parts are the turns of the second from where the first ends. -/
theorem turns_append (h : Host) (ts us : List Turn) :
    h.turns (ts ++ us)
      = (((h.turns ts).1.turns us).1, (h.turns ts).2.append ((h.turns ts).1.turns us).2) := by
  induction ts generalizing h with
  | nil => rfl
  | cons t ts ih => simp [ih, Effects.append]

/-- Inputs that come while nothing changes about the sending are turns. -/
theorem run_eq_turns (h : Host) (sending : Bool) (is : List Input) :
    h.run sending is = h.turns (is.map (⟨sending, ·⟩)) := by
  induction is generalizing h with
  | nil => rfl
  | cons i is ih =>
    show _ = (_, _)
    rw [← ih]
    rfl

end Host

/-! ### Frames that take the player elsewhere -/

/-- **A frame takes the player elsewhere** when it refuses the session, and only then. -/
theorem Client.receive_navigate_iff (c : Client) (text : String) :
    (c.receive text).2.1.navigate.isSome = true ↔
      c.halted = false ∧
        ∃ code message, Inbound.ofText text = .ok (.failure .unauthorized code message) := by
  cases hh : c.halted with
  | true => simp [receive_of_halted hh, Outcome.quiet]
  | false =>
    cases hi : Inbound.ofText text with
    | error e => simp [receive_of_error hh hi, Outcome.advise]
    | ok i =>
      rw [receive_of_ok hh hi]
      cases i with
      | heartbeat => simp [take, Outcome.quiet]
      | update g p advisory => simp [take, update_outcome, Outcome.ofUpdate]
      | notice code message =>
        by_cases hm : message = ""
        · simp [take, hm, Outcome.quiet]
        · simp [take_notice_of_nonempty c code hm, Outcome.advise]
      | failure kind code message =>
        cases kind with
        | rejected => simp [take_rejected, Outcome.advise]
        | unauthorized => simp [take_unauthorized]
        | serverError => simp [take_serverError, Outcome.advise]

/-- An action leads to the client that prepares it. -/
theorem Client.step_action_fst (c : Client) (a : Action) :
    (c.step (.action a)).1 = (c.prepare a).1 := by
  simp only [step]
  split <;> next h => rw [h]

namespace Host

/-! ### What can happen in a turn -/

/-- A host takes no turn after it stopped. -/
theorem turn_of_stopped {h : Host} (hs : h.stopped = true) (t : Turn) : h.turn t = (h, .none) := by
  simp [turn, step, hs]

theorem turns_of_stopped {h : Host} (hs : h.stopped = true) (ts : List Turn) :
    h.turns ts = (h, .none) := by
  induction ts with
  | nil => rfl
  | cons t ts ih =>
    rw [turns_cons, turn_of_stopped hs, ih]
    rfl

/-- What can happen in a turn of a host that has not stopped. -/
inductive Took (h : Host) (t : Turn) : Prop
  /-- A frame comes, and the session goes on. -/
  | frame (text : String) (hi : t.input = .frame text)
      (hn : (h.client.receive text).2.1.navigate.isSome = false)
      (ht : h.turn t =
        (h.publish (h.client.receive text).1, .wake (h.client.receive text).2.2))
  /-- A frame comes that takes the player elsewhere. -/
  | taken (text : String) (hi : t.input = .frame text)
      (hn : (h.client.receive text).2.1.navigate.isSome = true)
      (ht : h.turn t =
        ((h.publish (h.client.receive text).1).stop, .wake (h.client.receive text).2.2))
  /-- An alarm comes and changes something. -/
  | changed (a : Alarm) (hi : t.input = .alarm a) (hc : (h.client.alarm a).2.1 = true)
      (ht : h.turn t = (h.publish (h.client.alarm a).1, .wake (h.client.alarm a).2.2))
  /-- An alarm comes and changes nothing. -/
  | unchanged (a : Alarm) (hi : t.input = .alarm a) (hc : h.client.alarm a = (h.client, false, []))
      (ht : h.turn t = (h, .none))
  /-- An action goes out. -/
  | sent (a : Action) (frame : String) (hi : t.input = .command (.act a))
      (hs : t.sending = true) (ha : (h.client.prepare a).2 = .ok frame)
      (ht : h.turn t = (h.publish (h.client.prepare a).1, ⟨[frame], []⟩))
  /-- An action is accepted and cannot go out any more. -/
  | unsent (a : Action) (frame : String) (hi : t.input = .command (.act a))
      (hs : t.sending = false) (ha : (h.client.prepare a).2 = .ok frame)
      (ht : h.turn t = ({ h with client := (h.client.prepare a).1 }.stop, .none))
  /-- An action is refused, which is shown. -/
  | refused (a : Action) (r : Refusal) (hi : t.input = .command (.act a))
      (ha : h.client.prepare a = (h.client, .error r))
      (ht : h.turn t = (h.publish (h.client.noteRefusal r).1, .wake (h.client.noteRefusal r).2))
  /-- The session starts over. -/
  | reset (hi : t.input = .command .reset)
      (ht : h.turn t = (h.publish h.client.reset, .none))
  /-- The player leaves, or no command can come any more. -/
  | left (hi : t.input = .command .leave ∨ t.input = .commandsClosed)
      (ht : h.turn t = ((h.publish h.client.leave).stop, .none))
  /-- No frame will come any more. -/
  | closed (hi : t.input = .framesClosed) (ht : h.turn t = (h.stop, .none))

theorem took_frame {h : Host} (hs : h.stopped = false) (sending : Bool) (text : String) :
    h.Took ⟨sending, .frame text⟩ := by
  cases hn : (h.client.receive text).2.1.navigate.isSome with
  | true => exact .taken text rfl hn (by simp [turn, step, hs, hn])
  | false => exact .frame text rfl hn (by simp [turn, step, hs, hn])

/-- An alarm that changes nothing is nothing to the host. -/
theorem turn_of_unchanged {h : Host} (hs : h.stopped = false) (sending : Bool) {a : Alarm}
    (hc : h.client.alarm a = (h.client, false, [])) : h.turn ⟨sending, .alarm a⟩ = (h, .none) := by
  obtain ⟨c, v, stopped⟩ := h
  cases hs
  simp [turn, step, hc, Effects.wake, Effects.none]

theorem took_alarm {h : Host} (hs : h.stopped = false) (sending : Bool) (a : Alarm) :
    h.Took ⟨sending, .alarm a⟩ := by
  by_cases hdue : (h.client.position a.timeline).standing = .due a.generation
  · have hc : (h.client.alarm a).2.1 = true := (Client.alarm_changes_iff _ _).mpr hdue
    exact .changed a rfl hc (by simp [turn, step, hs, hc])
  · have hc : h.client.alarm a = (h.client, false, []) := Client.alarm_eq_of_not_due hdue
    exact .unchanged a rfl hc (turn_of_unchanged hs sending hc)

theorem took_action {h : Host} (hs : h.stopped = false) (sending : Bool) (a : Action) :
    h.Took ⟨sending, .command (.act a)⟩ := by
  cases hr : h.client.refusal? a with
  | some r =>
    have ha : h.client.prepare a = (h.client, .error r) := by simp [Client.prepare, hr]
    exact .refused a r rfl ha (by simp [turn, step, act, hs, ha])
  | none =>
    obtain ⟨c, hc⟩ : ∃ c, h.client.prepare a = (c, .ok (a.frame h.client.latest.phase)) :=
      ⟨_, by simp [Client.prepare, hr]; rfl⟩
    cases sending with
    | true =>
      exact .sent a (a.frame h.client.latest.phase) rfl rfl (by rw [hc])
        (by simp [turn, step, act, hs, hc])
    | false =>
      exact .unsent a (a.frame h.client.latest.phase) rfl rfl (by rw [hc])
        (by simp [turn, step, act, hs, hc])

/-- **What can happen in a turn**, and nothing else. -/
theorem took {h : Host} (hs : h.stopped = false) (t : Turn) : h.Took t := by
  obtain ⟨sending, i⟩ := t
  cases i with
  | frame text => exact took_frame hs sending text
  | alarm a => exact took_alarm hs sending a
  | command command =>
    cases command with
    | act a => exact took_action hs sending a
    | reset => exact .reset rfl (by simp [turn, step, hs])
    | leave => exact .left (.inl rfl) (by simp [turn, step, hs, leave])
  | framesClosed => exact .closed rfl (by simp [turn, step, hs])
  | commandsClosed => exact .left (.inr rfl) (by simp [turn, step, hs, leave])

/-! ### Turns as events -/

/-- A turn is an event of the client, or nothing to it. -/
inductive Moved (h : Host) (t : Turn) : Prop
  /-- It is an event, and an alarm only for an alarm. -/
  | event (e : Event) (ha : ∀ a, e = .alarm a → t.input = .alarm a)
      (hc : (h.turn t).1.client = (h.client.step e).1)
      (hw : (h.turn t).2.wakes = (h.client.step e).2.2)
  /-- The client does not notice it. -/
  | unnoticed (hc : (h.turn t).1.client = h.client) (hw : (h.turn t).2.wakes = [])

/-- **A turn is an event of the client**, or nothing to it. -/
theorem turn_event (h : Host) (t : Turn) : h.Moved t := by
  cases hs : h.stopped with
  | true => exact .unnoticed (by rw [turn_of_stopped hs]) (by rw [turn_of_stopped hs]; rfl)
  | false =>
    cases took hs t with
    | frame text _ _ ht =>
      exact .event (.frame text) (by simp) (by rw [ht]; rfl) (by rw [ht]; rfl)
    | taken text _ _ ht =>
      exact .event (.frame text) (by simp) (by rw [ht]; rfl) (by rw [ht]; rfl)
    | changed a hi _ ht =>
      refine .event (.alarm a) (fun b hb => ?_) (by rw [ht]; rfl) (by rw [ht]; rfl)
      cases hb
      exact hi
    | unchanged a _ _ ht => exact .unnoticed (by rw [ht]) (by rw [ht]; rfl)
    | sent a frame _ _ _ ht =>
      obtain ⟨-, -, hw⟩ := h.client.step_action_frame a
      exact .event (.action a) (by simp) (by rw [ht, Client.step_action_fst]; rfl) (by rw [ht, hw])
    | unsent a frame _ _ _ ht =>
      obtain ⟨-, -, hw⟩ := h.client.step_action_frame a
      exact .event (.action a) (by simp) (by rw [ht, Client.step_action_fst]; rfl)
        (by rw [ht, hw]; rfl)
    | refused a r _ _ ht =>
      exact .event (.refused r) (by simp) (by rw [ht]; rfl) (by rw [ht]; rfl)
    | reset _ ht => exact .event .reset (by simp) (by rw [ht]; rfl) (by rw [ht]; rfl)
    | left _ ht => exact .event .leave (by simp) (by rw [ht]; rfl) (by rw [ht]; rfl)
    | closed _ ht => exact .unnoticed (by rw [ht]; rfl) (by rw [ht]; rfl)

/-- A turn leads a client that some run leads to on to another. -/
theorem turn_reachable {settings : Settings} {h : Host}
    (hr : Client.Reachable settings h.client) (t : Turn) :
    Client.Reachable settings (h.turn t).1.client := by
  cases turn_event h t with
  | event e _ hc _ =>
    rw [hc]
    exact hr.step e
  | unnoticed hc _ =>
    rw [hc]
    exact hr

/-! ### Why a host stops -/

/-- An action is accepted and cannot go out any more. -/
def Unsent (h : Host) (t : Turn) : Prop :=
  ∃ a frame, t = ⟨false, .command (.act a)⟩ ∧ (h.client.prepare a).2 = .ok frame

/-- A turn that ends everything: the player leaves, inputs of a kind end, the server
refuses the session, or an accepted action cannot go out any more. -/
def Stops (h : Host) (t : Turn) : Prop :=
  match t.input with
  | .command .leave | .commandsClosed | .framesClosed => True
  | .frame text => h.client.halted = false ∧
      ∃ code message, Inbound.ofText text = .ok (.failure .unauthorized code message)
  | .command (.act _) => h.Unsent t
  | .command .reset | .alarm _ => False

theorem Unsent.stops {h : Host} {t : Turn} (hu : h.Unsent t) : h.Stops t := by
  obtain ⟨a, frame, rfl, ha⟩ := hu
  exact ⟨a, frame, rfl, ha⟩

/-- **Which turns stop a host.** -/
theorem stops_iff {h : Host} (hs : h.stopped = false) (t : Turn) :
    (h.turn t).1.stopped = true ↔ h.Stops t := by
  obtain ⟨sending, i⟩ := t
  cases took hs ⟨sending, i⟩ with
  | frame text hi hn ht =>
    subst hi
    have hnone := mt (h.client.receive_navigate_iff text).mpr (Bool.not_eq_true _ ▸ hn)
    exact iff_of_false (by simp [ht, publish, hs]) hnone
  | taken text hi hn ht =>
    subst hi
    exact iff_of_true (by simp [ht, stop]) ((h.client.receive_navigate_iff text).mp hn)
  | changed a hi _ ht =>
    subst hi
    exact iff_of_false (by simp [ht, publish, hs]) id
  | unchanged a hi _ ht =>
    subst hi
    exact iff_of_false (by simp [ht, hs]) id
  | sent a frame hi hsend _ ht =>
    subst hi
    refine iff_of_false (by simp [ht, publish, hs]) ?_
    rintro ⟨_, _, heq, -⟩
    cases heq
    cases hsend
  | unsent a frame hi hsend ha ht =>
    subst hi hsend
    exact iff_of_true (by simp [ht, stop]) ⟨a, frame, rfl, ha⟩
  | refused a r hi ha ht =>
    subst hi
    refine iff_of_false (by simp [ht, publish, hs]) ?_
    rintro ⟨_, _, heq, hok⟩
    cases heq
    rw [ha] at hok
    cases hok
  | reset hi ht =>
    subst hi
    exact iff_of_false (by simp [ht, publish, hs]) id
  | left hi ht =>
    refine iff_of_true (by simp [ht, stop]) ?_
    rcases hi with hi | hi <;> subst hi <;> trivial
  | closed hi ht =>
    subst hi
    exact iff_of_true (by simp [ht, stop]) trivial

/-- A turn that goes on comes after one that went on, and is not cut short. -/
theorem not_unsent_of_turn {h : Host} {t : Turn} (hgoes : (h.turn t).1.stopped = false) :
    h.stopped = false ∧ ¬ h.Unsent t := by
  cases hs : h.stopped with
  | true =>
    rw [turn_of_stopped hs, hs] at hgoes
    cases hgoes
  | false =>
    refine ⟨rfl, fun hu => ?_⟩
    rw [(stops_iff hs t).mpr hu.stops] at hgoes
    cases hgoes

/-! ### The published view -/

/-- What is published is what the client shows, but for the order of the score changes. -/
def Current (h : Host) : Prop := h.published.Reorders h.client.view

/-- Whether it is published or not, all but the score changes shows what the client shows. -/
theorem rest_publish (h : Host) (c : Client) :
    { (h.publish c).published with changes := c.view.changes } = c.view := by
  unfold publish
  split
  · next hsame =>
    rw [View.same, Bool.and_eq_true, beq_iff_eq] at hsame
    exact hsame.1
  · rfl

theorem current_fresh (settings : Settings) : (Host.fresh settings).Current := .refl _

section Current

variable {settings : Settings} {h : Host}

/-- Publishing a client leaves it shown. -/
theorem Current.publish (hcurrent : h.Current) (hr : Client.Reachable settings h.client)
    {c : Client} (hc : Client.Reachable settings c) : (h.publish c).Current := by
  show View.Reorders (if h.published.same c.view then h.published else c.view) c.view
  split
  · next hsame => exact (View.same_iff (hcurrent.distinct hr.distinct) hc.distinct).mp hsame
  · exact .refl _

/-- A client that is shown needs not be published. -/
theorem Current.publish_eq (hcurrent : h.Current) (hr : Client.Reachable settings h.client) :
    h.publish h.client = h := by
  have hsame : h.published.same h.client.view = true :=
    (View.same_iff (hcurrent.distinct hr.distinct) hr.distinct).mpr hcurrent
  rw [Host.publish, if_pos hsame]

/-- **What a turn publishes**, unless an accepted action cannot go out: the view of the client
after it, if it is not the same as the one published before. -/
theorem Current.published_turn (hcurrent : h.Current) (hr : Client.Reachable settings h.client)
    (hs : h.stopped = false) {t : Turn} (ht : ¬ h.Unsent t) :
    (h.turn t).1.published = (h.publish (h.turn t).1.client).published := by
  obtain ⟨sending, i⟩ := t
  cases took hs ⟨sending, i⟩ with
  | unchanged a _ _ hturn =>
    -- nothing is published, and nothing changed that could be shown
    rw [hturn, hcurrent.publish_eq hr]
  | closed _ hturn =>
    rw [hturn]
    exact (congrArg published (hcurrent.publish_eq hr)).symm
  | unsent a frame hi hsend ha _ =>
    subst hi hsend
    exact absurd ⟨a, frame, rfl, ha⟩ ht
  | _ =>
    simp only [*]
    rfl

/-- **A turn keeps the published view current**, unless an accepted action cannot go out. -/
theorem Current.turn (hcurrent : h.Current) (hr : Client.Reachable settings h.client)
    (hs : h.stopped = false) {t : Turn} (ht : ¬ h.Unsent t) : (h.turn t).1.Current := by
  rw [Current, hcurrent.published_turn hr hs ht]
  exact hcurrent.publish hr (turn_reachable hr t)

/-- A host that goes on has published what its client shows. -/
theorem current_turns (hr : Client.Reachable settings h.client)
    (hcurrent : h.stopped = false → h.Current) {ts : List Turn}
    (hgoes : (h.turns ts).1.stopped = false) :
    Client.Reachable settings (h.turns ts).1.client ∧ (h.turns ts).1.Current := by
  induction ts generalizing h with
  | nil => exact ⟨hr, hcurrent hgoes⟩
  | cons t ts ih =>
    refine ih (turn_reachable hr t) (fun hnext => ?_) hgoes
    obtain ⟨hs, hu⟩ := not_unsent_of_turn hnext
    exact (hcurrent hs).turn hr hs hu

end Current

/-- An accepted action that cannot go out leaves what was published. -/
theorem published_of_unsent {h : Host} (hs : h.stopped = false) {t : Turn} (hu : h.Unsent t) :
    (h.turn t).1.published = h.published := by
  obtain ⟨a, frame, rfl, ha⟩ := hu
  generalize hc : h.client.prepare a = r at ha
  obtain ⟨c, out⟩ := r
  subst ha
  simp [turn, step, act, hs, hc, stop]

/-- A host gives back the view that it published last. -/
theorem result_eq (h : Host) (ts : List Turn) :
    h.result ts =
      if (h.turns ts).1.stopped then some (h.turns ts).1.published else none := by
  induction ts generalizing h with
  | nil => rfl
  | cons t ts ih =>
    cases hs : h.stopped with
    | true => simp [result, hs, turns_of_stopped hs]
    | false =>
      rw [result, hs, ih, turns_cons]
      rfl

/-- **The published view is current**, in every run.  While a host goes on it has published
what its client shows, but for the order of the score changes; so it has after the turn that
stops it, unless that is an accepted action that cannot go out any more, which leaves the view
that was published before.  A turn leaves the view before it published if the client shows the
same after it, and otherwise publishes what the client shows then, order included.  What the
host gives back in the end is the view that it published last. -/
theorem published_current (settings : Settings) (ts : List Turn) :
    let h := ((Host.fresh settings).turns ts).1
    (h.stopped = false → h.published.Reorders h.client.view ∧ ∀ t : Turn,
      let k := (h.turn t).1
      (k.stopped = true ↔ h.Stops t) ∧
      (¬ h.Unsent t → k.published.Reorders k.client.view ∧
        k.published = if h.published.same k.client.view then h.published else k.client.view) ∧
      (h.Unsent t → k.published = h.published)) ∧
    (h.stopped = true → ∀ t : Turn, h.turn t = (h, .none)) ∧
    (Host.fresh settings).result ts = if h.stopped then some h.published else none := by
  intro h
  refine ⟨fun hs => ?_, turn_of_stopped, result_eq _ ts⟩
  obtain ⟨hr, hcurrent⟩ :=
    current_turns (.fresh settings) (fun _ => current_fresh settings) hs
  exact ⟨hcurrent, fun t => ⟨stops_iff hs t,
    fun hu => ⟨hcurrent.turn hr hs hu, hcurrent.published_turn hr hs hu⟩,
    published_of_unsent hs⟩⟩

/-- Score changes that come again in another order stay published in the earlier one. -/
example :
    let seat (id : String) (score : Int64) : Player :=
      { Player.blank with id := id, score := score }
    let take (h : Host) (players : List Player) : Host :=
      h.publish (h.client.update { Game.blank with players := players } .blank none).1
    let h := [[seat "a" 0, seat "b" 0], [seat "a" 100, seat "b" 200],
      [seat "b" 400, seat "a" 200]].foldl take (.fresh .default)
    h.published.changes = [("a", 100), ("b", 200)] ∧
      h.client.view.changes = [("b", 200), ("a", 100)] := by
  decide +kernel

end Host

end QuizClient
