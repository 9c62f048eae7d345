import Mathlib.Data.List.Induction
import QuizClient.Client.Countdown

/-!
# What a countdown counts

A countdown is called in any order: it is started, cancelled, told of a pause, and handed
ticks of any generation, old ones and foreign ones too.  What it shows can be told from the
record of these calls alone.  It shows something if it was started since the latest cancel or
pause, namely the seconds it was started with less the ticks of its own generation since then,
and each of these ticks but the last has asked for another one.

## Main definitions

* `Call`, `Turn`, `Countdown.run` — calls, and what comes of them.
* `Quiet`, `Since` — whether a countdown was started since the latest cancel or pause, and
  what came behind the start.
* `Tallied` — a countdown agrees with the record of its calls.

## Main results

* `quiet_concat_iff`, `since_concat_iff` — what one more call does to the record.
* `tallied_turn`, `tallied_run` — **a countdown agrees with the record of its calls.**
* `counts_exactly` — **what a countdown shows, asks for and answers.**
-/

namespace QuizClient

namespace Countdown

/-! ### Calls -/

/-- What can be asked of a countdown. -/
inductive Call where
  /-- To count down from a duration. -/
  | start (d : Duration)
  /-- To count a second of a generation. -/
  | tick (generation : Nat)
  /-- To show nothing. -/
  | cancel
  /-- To take over the pause flag of a snapshot. -/
  | setPaused (paused : Bool)
  deriving DecidableEq

/-- What a call gives back. -/
inductive Result where
  /-- The countdown has started, in a generation. -/
  | started (generation : Nat)
  /-- It has not. -/
  | refused (why : CountdownRefusal)
  /-- Whether a tick moved it. -/
  | ticked (moved : Bool)
  /-- Nothing. -/
  | done
  deriving DecidableEq

/-- A call and what came of it. -/
structure Turn where
  /-- The call. -/
  call : Call
  /-- What it gave back. -/
  result : Result
  /-- The alarms it asked for. -/
  wakes : List Wake
  deriving DecidableEq

/-- One call. -/
def turn (c : Countdown) : Call → Countdown × Turn
  | .start d =>
    match c.start d with
    | .ok (c', wakes) => (c', ⟨.start d, .started c'.generation, wakes⟩)
    | .error why => (c, ⟨.start d, .refused why, []⟩)
  | .tick g =>
    let (c', moved, wakes) := c.tick g
    (c', ⟨.tick g, .ticked moved, wakes⟩)
  | .cancel => (c.cancel, ⟨.cancel, .done, []⟩)
  | .setPaused paused => (c.setPaused paused, ⟨.setPaused paused, .done, []⟩)

/-- Calls in order, with the record of them. -/
def run (c : Countdown) (calls : List Call) : Countdown × List Turn :=
  calls.foldl (fun (c, ts) call => ((c.turn call).1, ts ++ [(c.turn call).2])) (c, [])

@[simp] theorem run_nil (c : Countdown) : c.run [] = (c, []) := rfl

theorem run_concat (c : Countdown) (calls : List Call) (call : Call) :
    c.run (calls ++ [call]) =
      (((c.run calls).1.turn call).1, (c.run calls).2 ++ [((c.run calls).1.turn call).2]) := by
  simp [run]

/-- A start that goes through. -/
theorem turn_start_of_accepted {c : Countdown} {d : Duration} (hp : c.paused = false)
    (hd : d.roundUp ≠ 0) :
    c.turn (.start d) =
      ({ c with display := .running d.roundUp (c.generation + 1), generation := c.generation + 1 },
        ⟨.start d, .started (c.generation + 1), [tickWake (c.generation + 1)]⟩) := by
  have hstart : c.start d = .ok _ := start_eq_ok_iff.mpr ⟨hp, hd, rfl⟩
  rw [turn, hstart]

/-- A start that is refused. -/
theorem turn_start_of_refused {c : Countdown} {d : Duration}
    (h : c.paused = true ∨ d.roundUp = 0) :
    ∃ why, c.turn (.start d) = (c, ⟨.start d, .refused why, []⟩) := by
  by_cases hp : c.paused = true
  · exact ⟨.paused, by simp [turn, start, hp]⟩
  · have hz : d.roundUp = 0 := h.resolve_left hp
    exact ⟨.zero, by simp [turn, start, hp, hz]⟩

/-- A tick that finds nothing to move. -/
theorem turn_tick_of_stale {c : Countdown} {g : Nat} (h : ∀ n, c.display ≠ .running n g) :
    c.turn (.tick g) = (c, ⟨.tick g, .ticked false, []⟩) := by
  have hstays : (c.tick g).2.1 = false := by
    rw [← Bool.not_eq_true, tick_moves_iff]
    rintro ⟨n, hn⟩
    exact h n hn
  rw [turn, tick_eq_of_not_moves hstays]

/-- A tick of the countdown that is running, which asks for the next one unless it is the
last. -/
theorem turn_tick_of_running {c : Countdown} {n g : Nat} (h : c.display = .running n g) :
    c.turn (.tick g) =
      ({ c with display := if n ≤ 1 then .expired else .running (n - 1) g },
        ⟨.tick g, .ticked true, if n ≤ 1 then [] else [tickWake g]⟩) := by
  by_cases hn : n ≤ 1
  · simp [turn, Countdown.tick, h, hn]
  · simp [turn, Countdown.tick, h, hn]

/-! ### The record -/

/-- The generation of a countdown that has started. -/
def Turn.started? (t : Turn) : Option Nat :=
  match t.result with
  | .started g => some g
  | _ => none

/-- Whether a countdown is shown no more whatever it was: it is cancelled, or the game is
paused. -/
def Turn.ends (t : Turn) : Bool := t.call == .cancel || t.call == .setPaused true

/-- The pause flag that a call hands over. -/
def Turn.flag? (t : Turn) : Option Bool :=
  match t.call with
  | .setPaused paused => some paused
  | _ => none

/-- The latest pause flag says that the game is paused. -/
def Paused (ts : List Turn) : Prop := (ts.filterMap Turn.flag?).getLast? = some true

/-- No countdown has started since the beginning, or since the latest cancel or pause. -/
def Quiet (ts : List Turn) : Prop :=
  ∃ earlier later, ts = earlier ++ later ∧ (∀ t ∈ earlier.getLast?, t.ends = true) ∧
    ∀ t ∈ later, t.started? = none

/-- A countdown has started, and no other one since then, and no cancel and no pause has come
since then either; `later` is what has come. -/
def Since (ts : List Turn) (d : Duration) (g : Nat) (later : List Turn) : Prop :=
  (∃ earlier wakes, ts = earlier ++ ⟨.start d, .started g, wakes⟩ :: later) ∧
    ∀ t ∈ later, t.started? = none ∧ t.ends = false

/-- How many ticks of a generation have come. -/
def ticks (g : Nat) (ts : List Turn) : Nat := ts.countP (·.call = .tick g)

/-- How many ticks of a generation have moved the countdown. -/
def moves (g : Nat) (ts : List Turn) : Nat :=
  ts.countP fun t => t.call = .tick g ∧ t.result = .ticked true

/-- The ticks of a generation that were asked for. -/
def asked (g : Nat) (ts : List Turn) : List Wake :=
  (ts.flatMap (·.wakes)).filter (·.alarm = ⟨.countdown, g⟩)

theorem ticks_concat (g : Nat) (ts : List Turn) (t : Turn) :
    ticks g (ts ++ [t]) = ticks g ts + if t.call = .tick g then 1 else 0 := by
  simp [ticks, List.countP_append, List.countP_singleton]

theorem moves_concat (g : Nat) (ts : List Turn) (t : Turn) :
    moves g (ts ++ [t]) =
      moves g ts + if t.call = .tick g ∧ t.result = .ticked true then 1 else 0 := by
  simp [moves, List.countP_append, List.countP_singleton]

theorem asked_concat (g : Nat) (ts : List Turn) (t : Turn) :
    asked g (ts ++ [t]) = asked g ts ++ t.wakes.filter (·.alarm = ⟨.countdown, g⟩) := by
  simp [asked]

theorem asked_tickWake (g : Nat) :
    [tickWake g].filter (·.alarm = ⟨.countdown, g⟩) = [tickWake g] := by
  simp [tickWake, Timeline.wake]

theorem paused_concat (ts : List Turn) (t : Turn) :
    Paused (ts ++ [t]) ↔ t.flag?.elim (Paused ts) (· = true) := by
  cases h : t.flag? with
  | none => simp [Paused, h]
  | some paused => simp [Paused, h]

theorem quiet_nil : Quiet [] := ⟨[], [], rfl, nofun, nofun⟩

/-- **One more call leaves no countdown started** if it is a cancel or a pause, or if it
starts none and there was none. -/
theorem quiet_concat_iff (ts : List Turn) (t : Turn) :
    Quiet (ts ++ [t]) ↔ t.ends = true ∨ t.started? = none ∧ Quiet ts := by
  constructor
  · rintro ⟨earlier, later, hts, hends, hnone⟩
    rcases List.eq_nil_or_concat later with rfl | ⟨later, t', rfl⟩
    · left
      rw [List.append_nil] at hts
      apply hends
      rw [← hts, List.getLast?_concat]
      rfl
    · right
      rw [List.concat_eq_append] at hnone hts
      rw [← List.append_assoc] at hts
      obtain ⟨rfl, ht⟩ := List.append_inj' hts rfl
      obtain rfl := List.singleton_inj.mp ht
      exact ⟨hnone t (by simp), earlier, later, rfl, hends, fun s hs => hnone s (by simp [hs])⟩
  · rintro (hends | ⟨hnone, earlier, later, rfl, hends, hlater⟩)
    · refine ⟨ts ++ [t], [], by simp, ?_, nofun⟩
      intro s hs
      rw [List.getLast?_concat, Option.mem_some_iff] at hs
      exact hs ▸ hends
    · refine ⟨earlier, later ++ [t], by simp, hends, ?_⟩
      exact List.forall_mem_append.mpr ⟨hlater, List.forall_mem_singleton.mpr hnone⟩

/-- **One more call starts a countdown or comes behind the one that was started.** -/
theorem since_concat_iff (ts : List Turn) (t : Turn) (d : Duration) (g : Nat)
    (later : List Turn) :
    Since (ts ++ [t]) d g later ↔
      (t.call = .start d ∧ t.result = .started g ∧ later = []) ∨
      (t.started? = none ∧ t.ends = false ∧
        ∃ before, later = before ++ [t] ∧ Since ts d g before) := by
  constructor
  · rintro ⟨⟨earlier, wakes, hts⟩, hlater⟩
    rcases List.eq_nil_or_concat later with rfl | ⟨before, t', rfl⟩
    · left
      obtain ⟨-, ht⟩ := List.append_inj' hts rfl
      obtain rfl := List.singleton_inj.mp ht
      exact ⟨rfl, rfl, rfl⟩
    · right
      rw [List.concat_eq_append] at hlater hts ⊢
      rw [← List.cons_append, ← List.append_assoc] at hts
      obtain ⟨rfl, ht⟩ := List.append_inj' hts rfl
      obtain rfl := List.singleton_inj.mp ht
      obtain ⟨hnone, hends⟩ := hlater t (by simp)
      exact ⟨hnone, hends, before, rfl, ⟨earlier, wakes, rfl⟩, fun s hs => hlater s (by simp [hs])⟩
  · rintro (⟨hcall, hresult, rfl⟩ | ⟨hnone, hends, before, rfl, ⟨earlier, wakes, rfl⟩, hbefore⟩)
    · refine ⟨⟨ts, t.wakes, ?_⟩, nofun⟩
      rw [← hcall, ← hresult]
    · refine ⟨⟨earlier, wakes, by simp⟩, ?_⟩
      exact List.forall_mem_append.mpr ⟨hbefore, List.forall_mem_singleton.mpr ⟨hnone, hends⟩⟩

/-! ### A countdown and its record -/

/-- What a countdown shows once `k` of its `n` ticks have come. -/
def Display.after (n k g : Nat) : Display := if k < n then .running (n - k) g else .expired

/-- No generation of a turn is later than `g`. -/
structure Turn.Within (t : Turn) (g : Nat) : Prop where
  /-- None that it asks ticks of. -/
  wakes : ∀ w ∈ t.wakes, w.alarm.generation ≤ g
  /-- None that it starts. -/
  started : ∀ n, t.started? = some n → n ≤ g
  /-- None that it counts. -/
  moved : ∀ n, t.call = .tick n → t.result = .ticked true → n ≤ g

theorem Turn.Within.mono {t : Turn} {g g' : Nat} (h : t.Within g) (hg : g ≤ g') :
    t.Within g' where
  wakes w hw := Nat.le_trans (h.wakes w hw) hg
  started n hn := Nat.le_trans (h.started n hn) hg
  moved n hn hm := Nat.le_trans (h.moved n hn hm) hg

/-- A countdown has counted the ticks of its own generation that have come since it was
started, and each of them but the last has asked for another one. -/
structure Counted (c : Countdown) (ts : List Turn) (d : Duration) (g : Nat) (later : List Turn) :
    Prop where
  /-- It is in that generation. -/
  generation : g = c.generation
  /-- It shows what the ticks have left of it. -/
  display : c.display = .after d.roundUp (ticks g later) g
  /-- One more tick was asked for than has come, up to the last. -/
  asked : asked g ts = List.replicate (min d.roundUp (ticks g later + 1)) (tickWake g)
  /-- The ticks that have come have moved it, up to the last. -/
  moves : moves g ts = min d.roundUp (ticks g later)

/-- **A countdown agrees with the record of its calls.** -/
structure Tallied (c : Countdown) (ts : List Turn) : Prop where
  /-- It has the latest pause flag. -/
  paused : c.paused = true ↔ Paused ts
  /-- It shows nothing while the game is paused. -/
  stands : c.paused = true → c.display = .idle
  /-- Its generation is the latest of all. -/
  within : ∀ t ∈ ts, t.Within c.generation
  /-- Generations grow. -/
  grows : (ts.filterMap Turn.started?).Pairwise (· < ·)
  /-- It has been started since the latest cancel or pause, or not. -/
  either : Quiet ts ∨ ∃ d g later, Since ts d g later
  /-- If not, it shows nothing. -/
  quiet : Quiet ts → c.display = .idle
  /-- If so, it has counted. -/
  since : ∀ d g later, Since ts d g later → Counted c ts d g later

namespace Tallied

variable {c c' : Countdown} {ts : List Turn}

theorem fresh : Tallied Countdown.fresh [] where
  paused := by simp [Countdown.fresh, Paused]
  stands _ := rfl
  within := nofun
  grows := .nil
  either := .inl quiet_nil
  quiet _ := rfl
  since := by
    rintro d g later ⟨⟨earlier, wakes, h⟩, -⟩
    simp at h

/-- Nothing is known of a generation that is still to come. -/
theorem asked_of_lt (h : Tallied c ts) {g : Nat} (hg : c.generation < g) : asked g ts = [] := by
  simp only [asked, List.filter_eq_nil_iff, List.mem_flatMap, decide_eq_true_eq]
  rintro w ⟨t, ht, hw⟩ halarm
  have hle := (h.within t ht).wakes w hw
  rw [halarm] at hle
  simp only at hle
  omega

theorem moves_of_lt (h : Tallied c ts) {g : Nat} (hg : c.generation < g) : moves g ts = 0 := by
  simp only [moves, List.countP_eq_zero, decide_eq_true_eq]
  rintro t ht ⟨hcall, hmoved⟩
  have hle := (h.within t ht).moved g hcall hmoved
  omega

/-- A tick moves a countdown of its own generation of which something is left. -/
theorem running_iff (h : Tallied c ts) (g : Nat) :
    (∃ n, c.display = .running n g) ↔
      ∃ d later, Since ts d g later ∧ ticks g later < d.roundUp := by
  constructor
  · rintro ⟨n, hn⟩
    rcases h.either with hquiet | ⟨d, g', later, hsince⟩
    · rw [h.quiet hquiet] at hn
      cases hn
    · have hdisplay := (h.since d g' later hsince).display
      rw [hdisplay, Display.after] at hn
      split at hn
      · next hlt =>
        cases hn
        exact ⟨d, later, hsince, hlt⟩
      · cases hn
  · rintro ⟨d, later, hsince, hlt⟩
    have hdisplay := (h.since d g later hsince).display
    rw [Display.after, if_pos hlt] at hdisplay
    exact ⟨_, hdisplay⟩

/-! ### One call -/

/-- A start that goes through. -/
theorem start (h : Tallied c ts) {d : Duration} (hp : c.paused = false) (hd : d.roundUp ≠ 0) :
    Tallied (c.turn (.start d)).1 (ts ++ [(c.turn (.start d)).2]) := by
  rw [turn_start_of_accepted hp hd]
  have hgeneration : c.generation < c.generation + 1 := Nat.lt_succ_self _
  refine
    { paused := ?_, stands := ?_, within := ?_, grows := ?_, either := ?_, quiet := ?_,
      since := ?_ }
  · simpa [paused_concat, Turn.flag?] using h.paused
  · intro hpaused
    cases hp.symm.trans hpaused
  · intro t ht
    rcases List.mem_append.mp ht with ht | ht
    · exact (h.within t ht).mono (Nat.le_succ _)
    · obtain rfl := List.mem_singleton.mp ht
      refine ⟨by simp [tickWake, Timeline.wake], ?_, by simp⟩
      intro n hn
      exact Nat.le_of_eq (Option.some.inj hn).symm
  · rw [List.filterMap_append, List.pairwise_append]
    refine ⟨h.grows, by simp [Turn.started?], ?_⟩
    intro n hn m hm
    obtain ⟨t, ht, hstarted⟩ := List.mem_filterMap.mp hn
    have hle := (h.within t ht).started n hstarted
    have hm : m = c.generation + 1 := by simpa [Turn.started?, eq_comm] using hm
    omega
  · exact .inr ⟨d, c.generation + 1, [], (since_concat_iff ..).mpr (.inl ⟨rfl, rfl, rfl⟩)⟩
  · intro hquiet
    rcases (quiet_concat_iff ..).mp hquiet with hends | ⟨hnone, -⟩
    · cases hends
    · cases hnone
  · intro d' g later hsince
    rcases (since_concat_iff ..).mp hsince with ⟨hcall, hresult, rfl⟩ | ⟨hnone, -⟩
    · cases hcall
      cases hresult
      have hone : min d.roundUp 1 = 1 := by omega
      have hpos : 0 < d.roundUp := by omega
      refine ⟨rfl, ?_, ?_, ?_⟩
      · simp [ticks, Display.after, hpos]
      · rw [asked_concat, h.asked_of_lt hgeneration, asked_tickWake]
        simp [ticks, hone]
      · rw [moves_concat, h.moves_of_lt hgeneration]
        simp [ticks]
    · cases hnone

/-- What a turn keeps that starts nothing and ends nothing, from what it leaves of the
countdown. -/
theorem goesOn (h : Tallied c ts) {t : Turn} (hstarted : t.started? = none)
    (hends : t.ends = false) (hwithin : t.Within c.generation)
    (hgeneration : c'.generation = c.generation)
    (hpaused : c'.paused = true ↔ Paused (ts ++ [t])) (hstands : c'.paused = true → c.paused = true)
    (hidle : c.display = .idle → c'.display = .idle)
    (hcounted : ∀ d g later, Since ts d g later → Counted c ts d g later →
      Counted c' (ts ++ [t]) d g (later ++ [t])) :
    Tallied c' (ts ++ [t]) where
  paused := hpaused
  stands hp := hidle (h.stands (hstands hp))
  within := by
    rw [hgeneration]
    exact List.forall_mem_append.mpr ⟨h.within, List.forall_mem_singleton.mpr hwithin⟩
  grows := by simpa [List.filterMap_append, hstarted] using h.grows
  either := by
    rcases h.either with hquiet | ⟨d, g, later, hsince⟩
    · exact .inl ((quiet_concat_iff ..).mpr (.inr ⟨hstarted, hquiet⟩))
    · exact .inr ⟨d, g, later ++ [t],
        (since_concat_iff ..).mpr (.inr ⟨hstarted, hends, later, rfl, hsince⟩)⟩
  quiet := by
    intro hquiet
    rcases (quiet_concat_iff ..).mp hquiet with he | ⟨-, hquiet⟩
    · cases hends.symm.trans he
    · exact hidle (h.quiet hquiet)
  since := by
    intro d g later hsince
    rcases (since_concat_iff ..).mp hsince with ⟨-, hresult, -⟩ | ⟨-, -, before, rfl, hbefore⟩
    · simp [Turn.started?, hresult] at hstarted
    · exact hcounted d g before hbefore (h.since d g before hbefore)

/-- A call that leaves the countdown as it is and asks for nothing: any but the ticks that move
it.  It may hand over that the game is not paused. -/
theorem still (h : Tallied c ts) {t : Turn} (hstarted : t.started? = none)
    (hends : t.ends = false) (hwakes : t.wakes = []) (hstill : t.result ≠ .ticked true)
    (htick : ∀ g n, t.call = .tick g → c.display ≠ .running n g)
    (hdisplay : c'.display = c.display) (hgeneration : c'.generation = c.generation)
    (hpaused : c'.paused = true ↔ Paused (ts ++ [t]))
    (hstands : c'.paused = true → c.paused = true) :
    Tallied c' (ts ++ [t]) := by
  have hwithin : t.Within c.generation := by
    refine ⟨by simp [hwakes], by simp [hstarted], ?_⟩
    intro n _ hmoved
    exact absurd hmoved hstill
  apply h.goesOn hstarted hends hwithin hgeneration hpaused hstands
  · intro hidle
    rw [hdisplay, hidle]
  · intro d g later _ hcounted
    -- a tick of the generation finds the countdown expired, so it is one too many
    have hspent : t.call = .tick g → d.roundUp ≤ ticks g later := by
      intro hcall
      by_contra hlt
      have hrunning := hcounted.display
      rw [Display.after, if_pos (Nat.lt_of_not_le hlt)] at hrunning
      exact htick g _ hcall hrunning
    have hmoves : moves g (ts ++ [t]) = moves g ts := by simp [moves_concat, hstill]
    have hasked : asked g (ts ++ [t]) = asked g ts := by simp [asked_concat, hwakes]
    refine ⟨?_, ?_, ?_, ?_⟩
    · rw [hgeneration, hcounted.generation]
    · rw [hdisplay, hcounted.display, ticks_concat]
      unfold Display.after
      by_cases hcall : t.call = .tick g
      · have hle := hspent hcall
        rw [if_pos hcall, if_neg (by omega), if_neg (by omega)]
      · rw [if_neg hcall, Nat.add_zero]
    · rw [hasked, hcounted.asked, ticks_concat]
      by_cases hcall : t.call = .tick g
      · have hle := hspent hcall
        congr 1
        omega
      · rw [if_neg hcall, Nat.add_zero]
    · rw [hmoves, hcounted.moves, ticks_concat]
      by_cases hcall : t.call = .tick g
      · have hle := hspent hcall
        omega
      · rw [if_neg hcall, Nat.add_zero]

/-- A tick of the generation that is running. -/
theorem tick (h : Tallied c ts) {n g : Nat} (hn : c.display = .running n g) :
    Tallied (c.turn (.tick g)).1 (ts ++ [(c.turn (.tick g)).2]) := by
  rw [turn_tick_of_running hn]
  -- whatever has been counted is this generation
  have hcurrent : ∀ d g' later, Counted c ts d g' later →
      g' = g ∧ ticks g later < d.roundUp ∧ n = d.roundUp - ticks g later := by
    intro d g' later hcounted
    have hdisplay := hcounted.display
    rw [hn, Display.after] at hdisplay
    split at hdisplay
    · next hlt =>
      cases hdisplay
      exact ⟨rfl, hlt, rfl⟩
    · cases hdisplay
  have hgeneration : g = c.generation := by
    obtain ⟨d, later, hsince, -⟩ := (h.running_iff g).mp ⟨n, hn⟩
    exact (h.since d g later hsince).generation
  apply h.goesOn rfl rfl
  · refine ⟨?_, nofun, ?_⟩
    · intro w hw
      split at hw
      · cases hw
      · obtain rfl := List.mem_singleton.mp hw
        exact Nat.le_of_eq hgeneration
    · intro m hm _
      cases hm
      exact Nat.le_of_eq hgeneration
  · rfl
  · simpa [paused_concat, Turn.flag?] using h.paused
  · exact id
  · intro hidle
    rw [hn] at hidle
    cases hidle
  · intro d g' later _ hcounted
    obtain ⟨rfl, hlt, hleft⟩ := hcurrent d g' later hcounted
    have hticks : ∀ w, ticks g' (later ++ [⟨.tick g', .ticked true, w⟩]) = ticks g' later + 1 := by
      intro w
      simp [ticks_concat]
    have hlast : n ≤ 1 ↔ ¬ ticks g' later + 1 < d.roundUp := by omega
    refine ⟨hgeneration, ?_, ?_, ?_⟩
    · show (if n ≤ 1 then Display.expired else .running (n - 1) g') = _
      rw [hticks, Display.after]
      by_cases hn1 : n ≤ 1
      · rw [if_pos hn1, if_neg (hlast.mp hn1)]
      · rw [if_neg hn1, if_pos (by omega), hleft, Nat.sub_sub]
    · rw [asked_concat, hcounted.asked, hticks]
      by_cases hn1 : n ≤ 1
      · have hmin : min d.roundUp (ticks g' later + 1 + 1)
            = min d.roundUp (ticks g' later + 1) := by omega
        simp [hn1, hmin]
      · have hmin : min d.roundUp (ticks g' later + 1 + 1)
            = min d.roundUp (ticks g' later + 1) + 1 := by omega
        rw [hmin, List.replicate_succ']
        simp [hn1, asked_tickWake]
    · rw [moves_concat, hcounted.moves, hticks]
      simp
      omega

/-- A cancel or a pause: it shows nothing any more. -/
theorem ended (h : Tallied c ts) {t : Turn} (hstarted : t.started? = none)
    (hends : t.ends = true) (hwakes : t.wakes = []) (hstill : t.result ≠ .ticked true)
    (hdisplay : c'.display = .idle) (hgeneration : c'.generation = c.generation)
    (hpaused : c'.paused = true ↔ Paused (ts ++ [t])) :
    Tallied c' (ts ++ [t]) where
  paused := hpaused
  stands _ := hdisplay
  within := by
    rw [hgeneration]
    refine List.forall_mem_append.mpr ⟨h.within, List.forall_mem_singleton.mpr ?_⟩
    refine ⟨by simp [hwakes], by simp [hstarted], ?_⟩
    intro n _ hmoved
    exact absurd hmoved hstill
  grows := by simpa [List.filterMap_append, hstarted] using h.grows
  either := .inl ((quiet_concat_iff ..).mpr (.inl hends))
  quiet _ := hdisplay
  since := by
    intro d g later hsince
    rcases (since_concat_iff ..).mp hsince with ⟨-, hresult, -⟩ | ⟨-, hgoesOn, -⟩
    · simp [Turn.started?, hresult] at hstarted
    · cases hgoesOn.symm.trans hends

end Tallied

/-- **One call keeps a countdown in agreement with the record.** -/
theorem tallied_turn {c : Countdown} {ts : List Turn} (h : Tallied c ts) (call : Call) :
    Tallied (c.turn call).1 (ts ++ [(c.turn call).2]) := by
  cases call with
  | start d =>
    by_cases hrefused : c.paused = true ∨ d.roundUp = 0
    · obtain ⟨why, hturn⟩ := turn_start_of_refused hrefused
      rw [hturn]
      refine h.still rfl rfl rfl nofun nofun rfl rfl ?_ id
      simpa [paused_concat, Turn.flag?] using h.paused
    · obtain ⟨hp, hd⟩ : c.paused = false ∧ d.roundUp ≠ 0 := by simpa using hrefused
      exact h.start hp hd
  | tick g =>
    by_cases hrunning : ∃ n, c.display = .running n g
    · obtain ⟨n, hn⟩ := hrunning
      exact h.tick hn
    · rw [turn_tick_of_stale fun n hn => hrunning ⟨n, hn⟩]
      refine h.still rfl rfl rfl nofun ?_ rfl rfl ?_ id
      · rintro m n ⟨⟩ hn
        exact hrunning ⟨n, hn⟩
      · simpa [paused_concat, Turn.flag?] using h.paused
  | cancel =>
    refine h.ended rfl rfl rfl nofun rfl rfl ?_
    simpa [turn, Countdown.cancel, paused_concat, Turn.flag?] using h.paused
  | setPaused paused =>
    cases paused with
    | true =>
      refine h.ended rfl rfl rfl nofun rfl rfl ?_
      simp [turn, paused_concat, Turn.flag?, Countdown.cancel]
    | false =>
      refine h.still rfl rfl rfl nofun nofun rfl rfl ?_ ?_
      · simp [turn, paused_concat, Turn.flag?]
      · intro hpaused
        cases hpaused

/-- **So does every sequence of calls.** -/
theorem tallied_run (calls : List Call) :
    Tallied (fresh.run calls).1 (fresh.run calls).2 := by
  induction calls using List.reverseRecOn with
  | nil => exact Tallied.fresh
  | append_singleton calls call ih =>
    rw [run_concat]
    exact tallied_turn ih call

/-! ### The main result -/

/-- **What a countdown shows, asks for and answers**, after any calls in any order.  Either
none was started since the beginning or since the latest cancel or pause, and nothing is
shown; or one was, of `n` seconds, and `k` ticks of its generation have come since then.  Then
`n - min n k` is shown, `min n (k + 1)` ticks of that generation were asked for, each a second
later, and `min n k` have moved the countdown; no tick moves it but one of that generation while
`k < n`.  A start is refused while the game is paused and when there is nothing to count, and
changes nothing then.  The generations of the others grow.  While the game is paused nothing
runs. -/
theorem counts_exactly (calls : List Call) :
    let c := (fresh.run calls).1
    let ts := (fresh.run calls).2
    (Quiet ts ∨ ∃ d g later, Since ts d g later) ∧
    (Quiet ts → c.remaining = none) ∧
    (∀ d g later, Since ts d g later →
      let n := d.roundUp
      let k := ticks g later
      c.remaining = some (n - min n k) ∧
      asked g ts = List.replicate (min n (k + 1)) ⟨⟨.countdown, g⟩, .ofSeconds 1⟩ ∧
      moves g ts = min n k) ∧
    (∀ g, ((c.turn (.tick g)).2.result = .ticked true ↔
        ∃ d later, Since ts d g later ∧ ticks g later < d.roundUp) ∧
      ((c.turn (.tick g)).2.result ≠ .ticked true →
        (c.turn (.tick g)).1 = c ∧ (c.turn (.tick g)).2.wakes = [])) ∧
    (∀ d, ((∃ g, (c.turn (.start d)).2.result = .started g) ↔ ¬ (Paused ts ∨ d.roundUp = 0)) ∧
      ((∃ why, (c.turn (.start d)).2.result = .refused why) ↔ Paused ts ∨ d.roundUp = 0) ∧
      (Paused ts ∨ d.roundUp = 0 →
        (c.turn (.start d)).1 = c ∧ (c.turn (.start d)).2.wakes = [])) ∧
    (ts.filterMap Turn.started?).Pairwise (· < ·) ∧
    (Paused ts → c.isRunning = false ∧ c.remaining = none) := by
  intro c ts
  have h : Tallied c ts := tallied_run calls
  refine ⟨h.either, ?_, ?_, ?_, ?_, h.grows, ?_⟩
  · intro hquiet
    rw [remaining, h.quiet hquiet]
  · intro d g later hsince
    have hcounted := h.since d g later hsince
    refine ⟨?_, hcounted.asked, hcounted.moves⟩
    have hleft : d.roundUp - min d.roundUp (ticks g later) = d.roundUp - ticks g later := by omega
    rw [remaining, hcounted.display, Display.after, hleft]
    by_cases hlt : ticks g later < d.roundUp
    · rw [if_pos hlt]
    · rw [if_neg hlt, Nat.sub_eq_zero_of_le (Nat.le_of_not_lt hlt)]
  · intro g
    rw [← h.running_iff g]
    by_cases hrunning : ∃ n, c.display = .running n g
    · obtain ⟨n, hn⟩ := hrunning
      rw [turn_tick_of_running hn]
      exact ⟨iff_of_true rfl ⟨n, hn⟩, fun hne => absurd rfl hne⟩
    · rw [turn_tick_of_stale fun n hn => hrunning ⟨n, hn⟩]
      exact ⟨iff_of_false nofun hrunning, fun _ => ⟨rfl, rfl⟩⟩
  · intro d
    rw [← h.paused]
    by_cases hrefused : c.paused = true ∨ d.roundUp = 0
    · obtain ⟨why, hturn⟩ := turn_start_of_refused hrefused
      rw [hturn]
      refine ⟨iff_of_false ?_ (not_not_intro hrefused), iff_of_true ⟨why, rfl⟩ hrefused,
        fun _ => ⟨rfl, rfl⟩⟩
      rintro ⟨g, ⟨⟩⟩
    · obtain ⟨hp, hd⟩ : c.paused = false ∧ d.roundUp ≠ 0 := by simpa using hrefused
      rw [turn_start_of_accepted hp hd]
      refine ⟨iff_of_true ⟨_, rfl⟩ hrefused, iff_of_false ?_ hrefused,
        fun hr => absurd hr hrefused⟩
      rintro ⟨why, ⟨⟩⟩
  · intro hpaused
    have hidle := h.stands (h.paused.mpr hpaused)
    rw [isRunning, remaining, hidle]
    exact ⟨rfl, rfl⟩

/-- Three ticks of a countdown of two seconds, the last of them one too many, and one of a
generation that never was. -/
example :
    let r := fresh.run [.start (.ofMillis 1500), .tick 7, .tick 1, .tick 1, .tick 1]
    r.1.remaining = some 0 ∧
      r.2.map (·.result) = [.started 1, .ticked false, .ticked true, .ticked true, .ticked false] ∧
      (asked 1 r.2).length = 2 := by decide

end Countdown

end QuizClient
