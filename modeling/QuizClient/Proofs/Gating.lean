import QuizClient.Proofs.Frames
import QuizClient.Proofs.Halting
import QuizClient.Proofs.Snapshots

/-!
# Which actions go out

What the player may do is told twice: the view shows it, and the check that an action passes
before it goes out asks for it.  The two agree, for every action and in every phase, and what
the check asks beyond that is about the action itself: the clue that is chosen stands on the
board of the round, of which the final one has none, and is still to be had, and a wager is
not negative.  The check comes before everything else, so an action that does not pass it
leaves no trace.

## Main definitions

* `Available`, `Game.Offers` — a clue can be chosen, of a board and of the board of the round.
* `Action.Permitted`, `Action.Fits` — what an action needs of the player, and what of the
  game.
* `Client.Refuses` — why an action is refused; of several reasons the first one counts.
* `Permissions.flags` — all that a player may be permitted.

## Main results

* `refusal?_eq_some_iff`, `refusal?_eq_none_iff` — the check, both ways.
* `count_flags_le_one` — a snapshot permits one thing at most.
* `game_of_applied` — which snapshot is the latest.
* `actions_gated` — **which actions go out**, in every run.
-/

namespace QuizClient

/-! ### What an action needs -/

/-- There is a clue in a column and row of a board, and it can still be chosen. -/
def Available (board : List Category) (column row : Nat) : Prop :=
  ∃ category clue, board[column]? = some category ∧ category.clues[row]? = some clue ∧
    clue.available = true

/-- A clue can be chosen in a column and row of the board that is played: each of the first two
rounds has its own, and the final round has none. -/
inductive Game.Offers (g : Game) (column row : Nat) : Prop
  /-- It is on the board of the first round, in the first round. -/
  | first (hround : g.round = .first) (h : Available g.firstBoard column row)
  /-- It is on the board of the second round, in the second round. -/
  | second (hround : g.round = .second) (h : Available g.secondBoard column row)

theorem Game.available_board_iff (g : Game) (column row : Nat) :
    Available g.board column row ↔ g.Offers column row := by
  unfold board
  cases hround : g.round with
  | first =>
    refine ⟨.first hround, ?_⟩
    rintro (⟨-, h⟩ | ⟨hother, -⟩)
    · exact h
    · cases hround.symm.trans hother
  | second =>
    refine ⟨.second hround, ?_⟩
    rintro (⟨hother, -⟩ | ⟨-, h⟩)
    · cases hround.symm.trans hother
    · exact h
  | final =>
    refine iff_of_false ?_ ?_
    · rintro ⟨category, clue, hcategory, -⟩
      cases hcategory
    · rintro (⟨hother, -⟩ | ⟨hother, -⟩) <;> cases hround.symm.trans hother

/-- **The check of a choice asks whether the game offers the clue.** -/
theorem Game.canPick_eq_true_iff (g : Game) (column row : Nat) :
    g.canPick column row = true ↔ g.Offers column row := by
  rw [← available_board_iff]
  unfold canPick Available
  cases hcategory : g.board[column]? with
  | none => simp
  | some category => cases hclue : category.clues[row]? <;> simp [hclue]

namespace Action

/-- What the player needs for an action: what the view shows them to be permitted or, for
the two actions that everybody has, a phase of play. -/
def Permitted (v : View) (phase : Phase) : Action → Prop
  | pick _ _ => v.permissions.pick = true
  | buzz _ => v.permissions.buzz = true
  | answer _ => v.permissions.answer = true
  | wager _ => v.permissions.wager = true
  | confirm _ => v.permissions.vote = true
  | dispute _ => v.permissions.dispute = true
  | protest _ => phase = .postGame
  | pause _ => phase ≠ .postGame ∧ phase ≠ .error

/-- What an action says fits the game: the clue that is chosen can be, and the wager is not
negative. -/
def Fits (g : Game) : Action → Prop
  | pick column row => g.Offers column.toNat row.toNat
  | wager amount => 0 ≤ amount
  | _ => True

end Action

namespace Client

/-- Why an action is refused.  A halt comes before everything else, and what the player may
do before what the action says. -/
inductive Refuses (c : Client) : Action → Refusal → Prop
  /-- The session is halted. -/
  | halted {a : Action} (hh : c.halted = true) : Refuses c a .halted
  /-- The player may not do it now. -/
  | notAllowed {a : Action} (hh : c.halted = false)
      (hp : ¬ a.Permitted c.view c.latest.phase) :
      Refuses c a (.notAllowed a.name c.latest.phase)
  /-- The clue is not on the board any more, or never was. -/
  | unavailable {column row : UInt64} (hh : c.halted = false)
      (hp : c.view.permissions.pick = true)
      (hg : ¬ c.latest.game.Offers column.toNat row.toNat) :
      Refuses c (.pick column row) (.unavailable column row)
  /-- The wager is negative. -/
  | badWager {amount : Int64} (hh : c.halted = false) (hp : c.view.permissions.wager = true)
      (hneg : amount < 0) : Refuses c (.wager amount) (.badWager amount)

/-! ### The check -/

section refusal

variable {c : Client} {a : Action}

theorem refusal?_of_halted (h : c.halted = true) (a : Action) : c.refusal? a = some .halted := by
  simp [refusal?, h]

/-- An action that the player may not do is refused for that, whatever it says. -/
theorem refusal?_of_not_permitted (hh : c.halted = false)
    (hp : ¬ a.Permitted c.view c.latest.phase) :
    c.refusal? a = some (.notAllowed a.name c.latest.phase) := by
  cases a with
  | pause on =>
    -- of the phases only the two that are over or broken stand in the way
    cases hphase : c.latest.phase <;>
      simp_all [Action.Permitted, refusal?, Phase.isTerminal]
  | _ => simp_all [Action.Permitted, refusal?, view]

theorem refusal?_of_permitted (hh : c.halted = false)
    (hp : a.Permitted c.view c.latest.phase) (hf : a.Fits c.latest.game) :
    c.refusal? a = none := by
  cases a with
  | pick column row =>
    have hmay : c.permissions.pick = true := hp
    simp [refusal?, hh, hmay, (Game.canPick_eq_true_iff _ _ _).mpr hf]
  | wager amount =>
    have hmay : c.permissions.wager = true := hp
    have hamount : ¬ amount < 0 := Int64.not_lt.mpr hf
    simp [refusal?, hh, hmay, hamount]
  | pause on =>
    cases hphase : c.latest.phase <;>
      simp_all [Action.Permitted, refusal?, Phase.isTerminal]
  | _ => simp_all [Action.Permitted, refusal?, view]

/-- **Why an action is refused**, if it is. -/
theorem refusal?_eq_some_iff {r : Refusal} : c.refusal? a = some r ↔ c.Refuses a r := by
  constructor
  · intro h
    cases hh : c.halted with
    | true =>
      rw [refusal?_of_halted hh] at h
      cases h
      exact .halted hh
    | false =>
      by_cases hp : a.Permitted c.view c.latest.phase
      · by_cases hf : a.Fits c.latest.game
        · rw [refusal?_of_permitted hh hp hf] at h
          cases h
        · -- only the choice of a clue and a wager say something that may not fit
          cases a with
          | pick column row =>
            have hmay : c.permissions.pick = true := hp
            have hnone : c.latest.game.canPick column.toNat row.toNat = false := by
              rw [← Bool.not_eq_true, Game.canPick_eq_true_iff]
              exact hf
            simp only [refusal?, hh, hmay, hnone] at h
            cases h
            exact .unavailable hh hp hf
          | wager amount =>
            have hmay : c.permissions.wager = true := hp
            have hneg : amount < 0 := Int64.not_le.mp hf
            simp only [refusal?, hh, hmay, hneg] at h
            cases h
            exact .badWager hh hp hneg
          | _ => exact absurd trivial hf
      · rw [refusal?_of_not_permitted hh hp] at h
        cases h
        exact .notAllowed hh hp
  · intro h
    cases h with
    | halted hh => exact refusal?_of_halted hh a
    | notAllowed hh hp => exact refusal?_of_not_permitted hh hp
    | unavailable hh hp hg =>
      have hmay : c.permissions.pick = true := hp
      rw [← Game.canPick_eq_true_iff, Bool.not_eq_true] at hg
      simp [refusal?, hh, hmay, hg]
    | badWager hh hp hneg =>
      have hmay : c.permissions.wager = true := hp
      simp [refusal?, hh, hmay, hneg]

/-- **When an action is not refused.** -/
theorem refusal?_eq_none_iff : c.refusal? a = none ↔
    c.halted = false ∧ a.Permitted c.view c.latest.phase ∧ a.Fits c.latest.game := by
  refine ⟨fun h => ?_, fun ⟨hh, hp, hf⟩ => refusal?_of_permitted hh hp hf⟩
  have hnone : ∀ r, ¬ c.Refuses a r := fun r hr => by
    rw [refusal?_eq_some_iff.mpr hr] at h
    cases h
  have hh : c.halted = false := by
    by_contra hhalted
    exact hnone _ (.halted (by simpa using hhalted))
  have hp : a.Permitted c.view c.latest.phase := by
    by_contra hdenied
    exact hnone _ (.notAllowed hh hdenied)
  refine ⟨hh, hp, ?_⟩
  cases a with
  | pick column row =>
    by_contra hg
    exact hnone _ (.unavailable hh hp hg)
  | wager amount =>
    by_contra hneg
    exact hnone _ (.badWager hh hp (Int64.not_le.mp hneg))
  | _ => trivial

theorem prepare_of_refused {r : Refusal} (h : c.refusal? a = some r) :
    c.prepare a = (c, .error r) := by
  simp only [prepare, h]

theorem prepare_of_allowed (h : c.refusal? a = none) :
    c.prepare a = (if a.spends then { c with buzzSpent := true } else c,
      .ok (a.frame c.latest.phase)) := by
  simp only [prepare, h]
  cases a <;> rfl

end refusal

end Client

/-! ### One thing at a time -/

/-- All that a player may be permitted. -/
def Permissions.flags (p : Permissions) : List Bool :=
  [p.pick, p.buzz, p.answer, p.wager, p.vote, p.dispute]

/-- **A snapshot permits one thing at most**: everything that a player may do belongs to a
phase of its own. -/
theorem Latest.count_flags_le_one (l : Latest) (blocked spent halted : Bool) :
    (l.permissions blocked spent halted).flags.count true ≤ 1 := by
  have hone : ∀ (q : Prop) [Decidable q], (if q then 1 else 0) ≤ 1 := by
    intro q _
    split <;> decide
  cases hphase : l.phase <;>
    simp [permissions, playsIn, hphase, Permissions.flags, List.count_cons, hone]

/-- Nothing is permitted while the game is paused or the session halted. -/
theorem Latest.count_flags_eq_zero (l : Latest) (blocked spent : Bool) {halted : Bool}
    (h : l.game.paused = true ∨ halted = true) :
    (l.permissions blocked spent halted).flags.count true = 0 := by
  have hnone : ∀ p, l.playsIn halted p = false := by
    intro p
    rcases h with h | h <;> simp [playsIn, h]
  simp [permissions, Permissions.flags, hnone]

namespace Client

/-! ### The latest snapshot -/

/-- The snapshot that a client took over last is its latest one, unless something made it
forget its game since. -/
theorem game_of_applied {b : Client} (hh : b.halted = false) {text : String} {g : Game}
    {p : Player} {advisory : Option String}
    (hi : Inbound.ofText text = .ok (.update g p advisory)) {post : List Event}
    (hnone : (b.step (.frame text)).1.snapshots post = [])
    (hkept : ∀ e ∈ post, e.forgets = false) :
    (b.run (.frame text :: post)).1.latest.game = g := by
  have hafter : (b.step (.frame text)).1.latest.game = g := by
    rw [step_frame, receive_of_ok hh hi]
    show (b.update g p advisory).1.latest.game = g
    rw [update_latest, game_replace]
  rw [run_cons, game_run _ hkept, hnone, hafter]
  rfl

/-! ### The main result -/

/-- **Which actions go out**, in every run.  An action goes out when, and only when, the
session goes on, the view permits the action to the player (a protest needs the end of the
game, a pause that the game is neither over nor broken) and what it says fits the game.
Its frame tells the phase of the latest snapshot, and nothing changes but that a buzz is
spent.  Any other action is refused, for the reason that comes first, and nothing changes.
The latest snapshot is the last one that was taken over, unless the client forgot its game
since.  What the view permits is one thing at most, and nothing while the game is paused or
the session halted. -/
theorem actions_gated (settings : Settings) (es : List Event) :
    let c := ((fresh settings).run es).1
    (∀ a,
      ((∃ frame, (c.prepare a).2 = .ok frame) ↔
        c.halted = false ∧ a.Permitted c.view c.latest.phase ∧ a.Fits c.latest.game) ∧
      (∀ frame, (c.prepare a).2 = .ok frame →
        frame = a.frame c.latest.phase ∧ Action.ofFrame? frame = some (c.latest.phase, a) ∧
          (c.prepare a).1 = if a.spends then { c with buzzSpent := true } else c) ∧
      ∀ r, ((c.prepare a).2 = .error r ↔ c.Refuses a r) ∧
        ((c.prepare a).2 = .error r → (c.prepare a).1 = c)) ∧
    (∀ pre text post g p advisory, es = pre ++ .frame text :: post →
      ((fresh settings).run pre).1.halted = false →
      Inbound.ofText text = .ok (.update g p advisory) →
      ((fresh settings).run (pre ++ [.frame text])).1.snapshots post = [] →
      (∀ e ∈ post, e.forgets = false) → c.latest.game = g) ∧
    c.view.permissions.flags.count true ≤ 1 ∧
    (c.latest.game.paused = true ∨ c.halted = true →
      c.view.permissions.flags.count true = 0) := by
  intro c
  refine ⟨fun a => ?_, ?_, c.latest.count_flags_le_one _ _ _, c.latest.count_flags_eq_zero _ _⟩
  · rw [← refusal?_eq_none_iff]
    cases hr : c.refusal? a with
    | none =>
      rw [prepare_of_allowed hr]
      refine ⟨iff_of_true ⟨_, rfl⟩ rfl, fun frame hframe => ?_, fun r => ⟨?_, nofun⟩⟩
      · cases hframe
        exact ⟨rfl, Action.ofFrame?_frame _ a, rfl⟩
      · rw [← refusal?_eq_some_iff, hr]
        exact iff_of_false nofun nofun
    | some s =>
      rw [prepare_of_refused hr]
      refine ⟨iff_of_false nofun nofun, nofun, fun r => ⟨?_, fun _ => rfl⟩⟩
      rw [← refusal?_eq_some_iff, hr]
      simp
  · rintro pre text post g p advisory hes hh hi hnone hkept
    have hrun : c = (((fresh settings).run pre).1.run (.frame text :: post)).1 := by
      simp [c, hes, run_append]
    rw [hrun]
    rw [run_concat] at hnone
    exact game_of_applied hh hi hnone hkept

end Client

end QuizClient
