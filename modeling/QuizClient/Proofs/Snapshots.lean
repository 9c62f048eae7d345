import QuizClient.Proofs.Timelines

/-!
# The snapshots of a run

Most of what happens to a client leaves its snapshots alone.  A frame brings a new one, and
leaving, starting over or a failure that ends the session makes the client forget the one
it has.  What is proved of the snapshots of a run is an induction over these three.

## Main definitions

* `Event.forgets` — an event that makes a client forget its game.
* `Client.snapshot?`, `Client.snapshots` — the snapshots that an event and a run bring.
* `Client.Brings` — what an event does to the snapshots.

## Main results

* `brings` — **what an event does to the snapshots.**
* `game_run` — the latest snapshot is the last one that was taken over, as long as no event
  makes the client forget it.
-/

namespace QuizClient

/-- Whether an event makes a client forget its game: it leaves, starts over, or hears that
the session is no longer accepted. -/
def Event.forgets : Event → Bool
  | .frame text =>
    match Inbound.ofText text with
    | .ok (.failure .unauthorized _ _) => true
    | _ => false
  | .leave | .reset => true
  | .alarm _ | .action _ | .refused _ => false

theorem Event.forgets_frame_iff (text : String) :
    (Event.frame text).forgets = true ↔
      ∃ code message, Inbound.ofText text = .ok (.failure .unauthorized code message) := by
  simp only [Event.forgets]
  split
  · next code message hi => simp [hi]
  · next hi => simpa using hi

namespace Client

/-- The snapshot of the game that an event brings; a halted client takes none. -/
def snapshot? (c : Client) : Event → Option Game
  | .frame text =>
    if c.halted then none
    else
      match Inbound.ofText text with
      | .ok (.update g _ _) => some g
      | .ok .heartbeat | .ok (.notice _ _) | .ok (.failure _ _ _) | .error _ => none
  | .alarm _ | .action _ | .refused _ | .leave | .reset => none

/-- The snapshots of the game that a run takes over, in order. -/
def snapshots (c : Client) : List Event → List Game
  | [] => []
  | e :: es => (c.snapshot? e).toList ++ (c.step e).1.snapshots es

@[simp] theorem snapshots_nil (c : Client) : c.snapshots [] = [] := rfl

@[simp] theorem snapshots_cons (c : Client) (e : Event) (es : List Event) :
    c.snapshots (e :: es) = (c.snapshot? e).toList ++ (c.step e).1.snapshots es := rfl

/-! ### One event -/

/-- What an event does to the snapshots of a client. -/
inductive Brings (c : Client) (e : Event) : Prop
  /-- They stay, and so does a halt. -/
  | nothing (hnone : c.snapshot? e = none) (hlatest : (c.step e).1.latest = c.latest)
      (hhalted : c.halted = true → (c.step e).1.halted = true)
      (hforgets : e.forgets = true → c.halted = true)
  /-- They are forgotten. -/
  | oblivion (hforgets : e.forgets = true) (hnone : c.snapshot? e = none)
      (hlatest : (c.step e).1.latest = c.latest.clear)
  /-- New ones come. -/
  | snapshot (text : String) (g : Game) (p : Player) (advisory : Option String)
      (he : e = .frame text) (hh : c.halted = false)
      (hi : Inbound.ofText text = .ok (.update g p advisory)) (hsome : c.snapshot? e = some g)
      (hforgets : e.forgets = false) (hstep : c.receive text = c.update g p advisory)
      (hlatest : (c.step e).1.latest = c.latest.replace g p)

/-- An event that a client takes leaves its snapshots alone if it neither brings one nor makes
the client forget them. -/
theorem Brings.of_kept {c : Client} {e : Event} (hh : c.halted = false)
    (hnone : c.snapshot? e = none) (hforgets : e.forgets = false)
    (hlatest : (c.step e).1.latest = c.latest) : c.Brings e := by
  refine .nothing hnone hlatest (fun h => ?_) fun h => ?_
  · rw [hh] at h
    cases h
  · rw [hforgets] at h
    cases h

theorem brings_frame (c : Client) (text : String) : c.Brings (.frame text) := by
  cases hh : c.halted with
  | true =>
    refine .nothing (by simp [snapshot?, hh]) ?_ ?_ fun _ => hh
    · rw [step_frame, receive_of_halted hh]
    · rw [step_frame, receive_of_halted hh]
      exact id
  | false =>
    cases hi : Inbound.ofText text with
    | error e =>
      refine .of_kept hh (by simp [snapshot?, hi]) (by simp [Event.forgets, hi]) ?_
      rw [step_frame, receive_of_error hh hi]
      rfl
    | ok i =>
      have htake : (c.step (.frame text)).1 = (c.take i).1 := by
        rw [step_frame, receive_of_ok hh hi]
      cases i with
      | update g p advisory =>
        exact .snapshot text g p advisory rfl hh hi (by simp [snapshot?, hh, hi])
          (by simp [Event.forgets, hi]) (receive_of_ok hh hi)
          (htake ▸ update_latest c g p advisory)
      | heartbeat =>
        exact .of_kept hh (by simp [snapshot?, hi]) (by simp [Event.forgets, hi])
          (by rw [htake]; rfl)
      | notice code message =>
        refine .of_kept hh (by simp [snapshot?, hi]) (by simp [Event.forgets, hi]) ?_
        rw [htake]
        by_cases hm : message = ""
        · subst hm
          rfl
        · rw [take_notice_of_nonempty c code hm]
          rfl
      | failure kind code message =>
        have hnone : c.snapshot? (.frame text) = none := by simp [snapshot?, hi]
        cases kind with
        | unauthorized =>
          exact .oblivion (by simp [Event.forgets, hi]) hnone (by rw [htake]; rfl)
        | rejected =>
          exact .of_kept hh hnone (by simp [Event.forgets, hi]) (by rw [htake]; rfl)
        | serverError =>
          exact .of_kept hh hnone (by simp [Event.forgets, hi]) (by rw [htake]; rfl)

/-- **What an event does to the snapshots**: they stay, they are forgotten, or new ones
come. -/
theorem brings (c : Client) (e : Event) : c.Brings e := by
  cases e with
  | frame text => exact brings_frame c text
  | alarm a =>
    obtain ⟨k, o, w, s, m, h⟩ := alarm_frame c a
    refine .nothing rfl ?_ ?_ nofun
    · rw [step_alarm, h]
    · rw [step_alarm, h]
      exact id
  | action a =>
    obtain ⟨b, h, -⟩ := step_action_frame c a
    refine .nothing rfl ?_ ?_ nofun
    · rw [h]
    · rw [h]
      exact id
  | refused r => exact .nothing rfl rfl id nofun
  | leave => exact .oblivion rfl rfl rfl
  | reset => exact .oblivion rfl rfl rfl

/-! ### Runs -/

/-- **The latest snapshot is the last one that a run took over**, or the one from before it,
as long as no event makes the client forget it. -/
theorem game_run (c : Client) {es : List Event} (h : ∀ e ∈ es, e.forgets = false) :
    (c.run es).1.latest.game = (c.snapshots es).getLast?.getD c.latest.game := by
  induction es generalizing c with
  | nil => rfl
  | cons e es ih =>
    have hes := ih (c.step e).1 fun f hf => h f (List.mem_cons_of_mem e hf)
    rw [run_cons, snapshots_cons, hes]
    cases brings c e with
    | nothing hnone hlatest => simp [hnone, hlatest]
    | oblivion hforgets =>
      rw [h e List.mem_cons_self] at hforgets
      cases hforgets
    | snapshot _ g _ _ _ _ _ hsome _ _ hlatest =>
      rw [hsome, hlatest]
      cases hs : (c.step e).1.snapshots es with
      | nil => rfl
      | cons s ss => simp [List.getLast?_cons]

end Client

end QuizClient
