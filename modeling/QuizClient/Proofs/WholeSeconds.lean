import QuizClient.Proofs.Starting

/-!
# Countdowns of whole seconds

A countdown shows whole seconds, of which 64 bits hold the number; a part of a second counts
as a whole one.  Of the longest durations that one more does not fit, and nothing guards
against it where a countdown starts.  It never happens: the times that a snapshot sets are
read as whole seconds, the settings give no other ones, and every start is of a time that one
of the two gives.  So a countdown that starts has exactly the seconds that it is given, and the
only start that is refused is one of no seconds.

## Main definitions

* `Duration.roundUp?`, `Countdown.start?` — the round-up and the start in 64 bits, which fail
  when the seconds do not fit.
* `TimeKind`, `Game.timeKind?` — what a time is for, and what a snapshot wants one for.
* `StartCall`, `Client.register` — a start on record, and the starter in 64 bits that records
  its starts.
* `StartCall.Exact` — a start of the time that the latest snapshot wants, to the second.

## Main results

* `roundUp?_eq_none_iff` — when the seconds do not fit.
* `TimeKind.exists_seconds` — all times are of whole seconds.
* `LeadsTo.exact` — the starts on the way from one client to another are exact.
* `register_step`, `register_run` — in 64 bits no event and no run fails.
* `whole_seconds_started` — **countdowns start with exactly the seconds they are given.**
-/

namespace QuizClient

/-! ### Rounding up in 64 bits -/

namespace Duration

/-- The second that a part of a second counts for. -/
def carry (d : Duration) : UInt64 := if 0 < d.subNanos then 1 else 0

/-- The seconds in 64 bits, a part of a second counted as a whole one, if they fit. -/
def roundUp? (d : Duration) : Option UInt64 :=
  let seconds := UInt64.ofNat d.seconds
  if seconds.toNat + d.carry.toNat < UInt64.size then some (seconds + d.carry) else none

theorem toNat_seconds_add_carry (d : Duration) :
    (UInt64.ofNat d.seconds).toNat + d.carry.toNat = d.roundUp := by
  rw [UInt64.toNat_ofNat_of_lt' d.seconds_lt, roundUp, carry]
  split <;> rfl

/-- What is rounded up in 64 bits is what is rounded up. -/
theorem roundUp?_eq_some_iff {d : Duration} {n : UInt64} :
    d.roundUp? = some n ↔ d.roundUp = n.toNat := by
  unfold roundUp?
  by_cases hfits : d.roundUp < UInt64.size
  · have hsum : (UInt64.ofNat d.seconds + d.carry).toNat = d.roundUp := by
      rw [UInt64.toNat_add, toNat_seconds_add_carry, Nat.mod_eq_of_lt hfits]
    rw [if_pos (by rwa [toNat_seconds_add_carry]), Option.some.injEq, ← UInt64.toNat_inj, hsum]
  · rw [if_neg (by rwa [toNat_seconds_add_carry])]
    refine iff_of_false nofun fun h => hfits ?_
    rw [h]
    exact n.toNat_lt_size

/-- **The seconds do not fit** when they are the most that 64 bits hold and there is a part of a
second behind them. -/
theorem roundUp?_eq_none_iff {d : Duration} :
    d.roundUp? = none ↔ d.seconds + 1 = UInt64.size ∧ 0 < d.subNanos := by
  have hlt := d.seconds_lt
  unfold roundUp?
  simp only [toNat_seconds_add_carry, roundUp, ite_eq_right_iff, reduceCtorEq, imp_false]
  by_cases hpart : 0 < d.subNanos
  · simp only [hpart, if_true, and_true]
    omega
  · simp only [hpart, if_false, and_false, iff_false]
    omega

/-- Whole seconds always fit. -/
theorem roundUp?_ofSeconds (n : UInt64) : (ofSeconds n).roundUp? = some n :=
  roundUp?_eq_some_iff.mpr (roundUp_ofSeconds n)

example : longest.roundUp? = none := by decide

end Duration

/-- Counts down from a duration in 64 bits: there is no result when the seconds do not fit. -/
def Countdown.start? (c : Countdown) (d : Duration) :
    Option (Except CountdownRefusal (Countdown × List Wake)) :=
  if c.paused then some (.error .paused)
  else do
    let seconds ← d.roundUp?
    if seconds = 0 then some (.error .zero)
    else
      let generation := c.generation + 1
      some (.ok ({ c with display := .running seconds.toNat generation, generation := generation },
        [tickWake generation]))

/-- Seconds that fit start a countdown in 64 bits as they do without a bound. -/
theorem Countdown.start?_of_fits (c : Countdown) {d : Duration} {n : UInt64}
    (h : d.roundUp? = some n) : c.start? d = some (c.start d) := by
  have hround : d.roundUp = n.toNat := Duration.roundUp?_eq_some_iff.mp h
  have hzero : n.toNat = 0 ↔ n = 0 := UInt64.toNat_inj (b := 0)
  unfold start? start
  by_cases hp : c.paused = true
  · simp only [if_pos hp]
  · by_cases hn : n = 0
    · simp [hp, h, hround, hn]
    · simp [hp, h, hround, hn, hzero]

/-! ### What times are for -/

/-- What a time is for. -/
inductive TimeKind where
  /-- To choose a clue. -/
  | pick
  /-- To buzz once buzzing is open. -/
  | buzz
  /-- To answer outside the final round. -/
  | answer
  /-- To wager outside the final round. -/
  | wager
  /-- To answer the final clue. -/
  | finalAnswer
  /-- To wager on the final clue. -/
  | finalWager
  /-- To vote on a ruling. -/
  | vote
  deriving DecidableEq, Repr

namespace TimeKind

/-- The time that a snapshot sets. -/
def ofGame? : TimeKind → Game → Option Duration
  | pick, g => g.pickTime
  | buzz, g => g.buzzTime
  | answer, g => g.answerTime
  | wager, g => g.wagerTime
  | finalAnswer, g => g.finalAnswerTime
  | finalWager, g => g.finalWagerTime
  | vote, g => g.voteTime

/-- The time that holds when a snapshot sets none. -/
def limit : TimeKind → TimeLimits → Duration
  | pick, l => l.pick
  | buzz, l => l.buzz
  | answer, l => l.answer
  | wager, l => l.wager
  | finalAnswer, l => l.finalAnswer
  | finalWager, l => l.finalWager
  | vote, l => l.vote

/-- The time there is: the one that the snapshot sets, or else the limit. -/
def time (k : TimeKind) (l : TimeLimits) (g : Game) : Duration := (k.ofGame? g).getD (k.limit l)

end TimeKind

/-- What a phase of play wants a time for, by the round. -/
def Phase.timeKind? : Phase → Round → Option TimeKind
  | .pick, _ => some .pick
  | .buzz, _ => some .buzz
  | .answer, .final => some .finalAnswer
  | .answer, _ => some .answer
  | .wager, .final => some .finalWager
  | .wager, _ => some .wager
  | .vote, _ => some .vote
  | _, _ => none

/-- What a snapshot wants a time for. -/
def Game.timeKind? (g : Game) : Option TimeKind := g.phase.timeKind? g.round

/-- Accepted settings give whole seconds. -/
theorem Settings.Accepted.exists_seconds {s : Settings} (h : s.Accepted) (k : TimeKind) :
    ∃ n : UInt64, k.limit s.limits = .ofSeconds n := by
  obtain ⟨d, -, rfl⟩ := h.exists_document
  cases k <;> exact ⟨_, rfl⟩

/-- A snapshot that was read sets whole seconds. -/
theorem Game.WholeTimes.exists_seconds {g : Game} (h : g.WholeTimes) {k : TimeKind} {d : Duration}
    (hd : k.ofGame? g = some d) : ∃ n : UInt64, d = .ofSeconds n := by
  have hmem : k.ofGame? g ∈ g.times := by cases k <;> simp [TimeKind.ofGame?, times]
  exact ⟨_, (Duration.ofSeconds_seconds (h _ hmem d hd)).symm⟩

theorem Game.wholeTimes_blank : Game.blank.WholeTimes := by decide

/-- **All times are of whole seconds.** -/
theorem TimeKind.exists_seconds {s : Settings} (hs : s.Accepted) {g : Game} (hg : g.WholeTimes)
    (k : TimeKind) : ∃ n : UInt64, k.time s.limits g = .ofSeconds n := by
  unfold time
  cases hset : k.ofGame? g with
  | none => exact hs.exists_seconds k
  | some d => exact hg.exists_seconds hset

namespace Client

/-! ### Which time is asked for -/

/-- A phase asks for the time that its snapshot wants. -/
theorem exists_kind_of_time? {c : Client} {d : Duration} (h : c.timing.time? = some d) :
    ∃ k, c.latest.game.timeKind? = some k ∧ d = k.time c.settings.limits c.latest.game := by
  show ∃ k, c.latest.phase.timeKind? c.latest.game.round = some k ∧ _
  cases hphase : c.latest.phase with
  | pick =>
    rw [timing_of_pick hphase] at h
    cases h
    exact ⟨.pick, rfl, rfl⟩
  | buzz =>
    rw [timing_of_buzz hphase] at h
    cases h
  | answer =>
    cases hround : c.latest.game.round with
    | final =>
      rw [timing_final (f := .answer) hround hphase] at h
      split at h
      · cases h
        exact ⟨.finalAnswer, rfl, rfl⟩
      · cases h
    | _ =>
      rw [timing_of_answer hphase (by simp [Latest.round, hround])] at h
      cases h
      exact ⟨.answer, rfl, rfl⟩
  | wager =>
    cases hround : c.latest.game.round with
    | final =>
      rw [timing_final (f := .wager) hround hphase] at h
      split at h
      · cases h
        exact ⟨.finalWager, rfl, rfl⟩
      · cases h
    | _ =>
      rw [timing_of_wager hphase (by simp [Latest.round, hround])] at h
      cases h
      exact ⟨.wager, rfl, rfl⟩
  | vote =>
    rw [timing_of_vote hphase] at h
    split at h
    · cases h
      exact ⟨.vote, rfl, rfl⟩
    · cases h
  | _ =>
    rw [timing_of_untimed (by simp [hphase, untimedPhases])] at h
    cases h

theorem LeadsTo.exists_kind {c b c' : Client} {p : Phase} {d : Duration}
    (h : LeadsTo c b p d c') :
    ∃ k, c'.latest.game.timeKind? = some k ∧ d = k.time c'.settings.limits c'.latest.game := by
  rw [← h.latest, ← h.settings]
  rcases h.time with htime | ⟨hb, rfl⟩
  · exact exists_kind_of_time? htime
  · have hphase : b.latest.game.phase = .buzz := h.phase.symm.trans hb
    exact ⟨.buzz, by rw [Game.timeKind?, hphase]; rfl, rfl⟩

/-! ### What every run keeps -/

section Reachable

variable {settings : Settings} {c : Client}

theorem Reachable.ready (h : Reachable settings c) : c.Ready := by
  obtain ⟨es, rfl⟩ := h
  exact run_invariant ready_step (.of_closed rfl) es

theorem Reachable.coupled (h : Reachable settings c) : c.Coupled := by
  obtain ⟨es, rfl⟩ := h
  exact coupled_run settings es

theorem Reachable.settings_eq (h : Reachable settings c) : c.settings = settings := by
  obtain ⟨es, rfl⟩ := h
  exact settings_run settings es

/-- A client's snapshot is the blank one or was read. -/
theorem wholeTimes_step (h : c.latest.game.WholeTimes) (e : Event) :
    (c.step e).1.latest.game.WholeTimes := by
  cases brings c e with
  | nothing _ hlatest =>
    rw [hlatest]
    exact h
  | oblivion _ _ hlatest =>
    rw [hlatest]
    exact Game.wholeTimes_blank
  | snapshot text g p advisory _ _ hi _ _ _ hlatest =>
    rw [hlatest]
    exact Inbound.wholeTimes_of_update hi

theorem Reachable.wholeTimes (h : Reachable settings c) : c.latest.game.WholeTimes := by
  obtain ⟨es, rfl⟩ := h
  exact run_invariant (P := fun c => c.latest.game.WholeTimes) wholeTimes_step
    Game.wholeTimes_blank es

end Reachable

end Client

/-! ### Starts on record -/

/-- A start of a countdown. -/
structure StartCall where
  /-- The client, as it starts it. -/
  client : Client
  /-- The phase it is for. -/
  phase : Phase
  /-- The time it is given. -/
  time : Duration
  deriving DecidableEq

/-- Whether it starts a countdown, and is not refused. -/
def StartCall.starts (call : StartCall) : Bool := (call.client.countdown.start call.time).isOk

namespace Client

/-- Starts a countdown in 64 bits, if the seconds fit, and puts the start on record. -/
def register : Starter (StateT (List StartCall) Option) := fun c phase d calls => do
  match ← c.countdown.start? d with
  | .ok (countdown, wakes) =>
    some (({ c with countdown := countdown, owner := some phase }, wakes), calls ++ [⟨c, phase, d⟩])
  | .error _ => some ((c, []), calls ++ [⟨c, phase, d⟩])

/-- A start of whole seconds does in 64 bits what it does without a bound. -/
theorem register_ofSeconds (c : Client) (p : Phase) (n : UInt64) (calls : List StartCall) :
    register c p (.ofSeconds n) calls
      = some (c.startCountdown p (.ofSeconds n), calls ++ [⟨c, p, .ofSeconds n⟩]) := by
  unfold register startCountdown
  rw [Countdown.start?_of_fits _ (Duration.roundUp?_ofSeconds n)]
  cases c.countdown.start (.ofSeconds n) <;> rfl

end Client

/-- A start of `n` seconds, in an event that leaves the client `c`: of the time that the snapshot
wants, to the second. -/
structure StartCall.Exact (limits : TimeLimits) (call : StartCall) (c : Client) (n : UInt64) :
    Prop where
  /-- It is made under the snapshots that are left. -/
  latest : call.client.latest = c.latest
  /-- It is made for the phase of play. -/
  phase : call.phase = c.latest.phase
  /-- Its time is the one that the snapshot sets for what it wants, or else the limit. -/
  wanted : ∃ k, c.latest.game.timeKind? = some k ∧ call.time = k.time limits c.latest.game
  /-- Its time is of whole seconds. -/
  whole : call.time = .ofSeconds n
  /-- In 64 bits they are rounded up to themselves. -/
  fits : call.time.roundUp? = some n
  /-- Seconds that are not zero start a countdown, which shows them. -/
  started : n ≠ 0 →
    call.client.countdown.start call.time
        = .ok (c.countdown, [Countdown.tickWake c.countdown.generation]) ∧
      c.countdown = { call.client.countdown with
        display := .running n.toNat (call.client.countdown.generation + 1)
        generation := call.client.countdown.generation + 1 }
  /-- No seconds are refused, and leave the countdown as it is. -/
  refused : n = 0 →
    call.client.countdown.start call.time = .error .zero ∧ c.countdown = call.client.countdown

/-- The generation grows with the starts that are not refused. -/
theorem StartCall.Exact.generation {limits : TimeLimits} {call : StartCall} {c : Client}
    {n : UInt64} (h : call.Exact limits c n) :
    c.countdown.generation
      = call.client.countdown.generation + if call.starts then 1 else 0 := by
  unfold starts
  by_cases hn : n = 0
  · obtain ⟨hrefused, hsame⟩ := h.refused hn
    rw [hrefused, hsame]
    rfl
  · obtain ⟨hstarted, hshown⟩ := h.started hn
    rw [hstarted, hshown]
    rfl

namespace Client

theorem LeadsTo.exact {c b c' : Client} {p : Phase} {d : Duration} (h : LeadsTo c b p d c')
    (hs : c'.settings.Accepted) (hw : c'.latest.game.WholeTimes) :
    ∃ n, StartCall.Exact c'.settings.limits ⟨b, p, d⟩ c' n := by
  obtain ⟨k, hk, hd⟩ := h.exists_kind
  obtain ⟨n, hn⟩ := k.exists_seconds hs hw
  have hwhole : d = .ofSeconds n := hd.trans hn
  have hround : d.roundUp = n.toNat := by rw [hwhole, Duration.roundUp_ofSeconds]
  have hlast := h.last
  refine ⟨n, {
    latest := h.latest
    phase := h.phase.trans (by rw [h.latest])
    wanted := ⟨k, hk, hd⟩
    whole := hwhole
    fits := Duration.roundUp?_eq_some_iff.mpr hround
    started := fun hpos => ?_
    refused := fun hzero => ?_ }⟩
  · have hne : d.roundUp ≠ 0 := by
      rwa [hround, Ne, ← UInt64.toNat_zero, UInt64.toNat_inj]
    rw [startCountdown_of_accepted h.unpaused hne, hround] at hlast
    refine ⟨Countdown.start_eq_ok_iff.mpr ⟨h.unpaused, hne, ?_⟩, hlast⟩
    rw [hlast, hround]
  · have hnone : d.roundUp = 0 := by
      rw [hround, hzero]
      rfl
    rw [startCountdown_of_refused (.inr hnone)] at hlast
    refine ⟨?_, hlast⟩
    simp [Countdown.start, h.unpaused, hnone]

section Register

variable {settings : Settings} {c : Client}

/-- **In 64 bits no event fails**: it does what it does without a bound, the starts that it puts
on record are exact, and those of them that were not refused are all that it starts. -/
theorem register_step (hs : settings.Accepted) (h : Reachable settings c) (e : Event)
    (calls : List StartCall) :
    ∃ more, (c.stepBy register e).run calls = some (c.step e, calls ++ more) ∧
      (c.step e).1.countdown.generation = c.countdown.generation + more.countP (·.starts) ∧
      ∀ call ∈ more, ∃ n, call.Exact settings.limits (c.step e).1 n := by
  have hafter := h.step e
  cases startsOnce_step register h.ready h.coupled e with
  | never hsame hx =>
    refine ⟨[], ?_, hsame, List.forall_mem_nil _⟩
    rw [hx, List.append_nil, StateT.run_pure]
    rfl
  | once b p d k hleads hx ha =>
    -- the time is read off the snapshot that is left, so the invariants are needed after the event
    obtain ⟨n, hexact⟩ := hleads.exact (by rwa [hafter.settings_eq]) hafter.wholeTimes
    rw [hafter.settings_eq] at hexact
    refine ⟨[⟨b, p, d⟩], ?_, ?_, fun call hcall => ?_⟩
    · obtain rfl : d = .ofSeconds n := hexact.whole
      rw [hx, ha, StateT.run_map, StateT.run, register_ofSeconds]
      rfl
    · rw [hexact.generation, ← hleads.first, List.countP_singleton]
    · obtain rfl := List.mem_singleton.mp hcall
      exact ⟨n, hexact⟩

/-- **In 64 bits no run fails**, and its starts are exact in the client that their event leaves. -/
theorem register_run (hs : settings.Accepted) (h : Reachable settings c) (es : List Event)
    (calls : List StartCall) :
    ∃ more, (c.runBy register es).run calls = some (c.run es, calls ++ more) ∧
      (c.run es).1.countdown.generation = c.countdown.generation + more.countP (·.starts) ∧
      ∀ call ∈ more, ∃ before e after n, es = before ++ e :: after ∧
        call.Exact settings.limits (c.run (before ++ [e])).1 n := by
  induction es generalizing c calls with
  | nil => exact ⟨[], by simp [runBy], rfl, List.forall_mem_nil _⟩
  | cons e es ih =>
    obtain ⟨now, hstep, hgen, hnow⟩ := register_step hs h e calls
    -- the rest of the run adds to the record that the event leaves
    obtain ⟨later, hrun, hgens, hlater⟩ := ih (h.step e) (calls ++ now)
    refine ⟨now ++ later, ?_, ?_, fun call hcall => ?_⟩
    · simp [runBy, hstep, hrun]
    · rw [run_cons, hgens, hgen, List.countP_append, Nat.add_assoc]
    · rcases List.mem_append.mp hcall with hmem | hmem
      · obtain ⟨n, hexact⟩ := hnow call hmem
        exact ⟨[], e, es, n, rfl, hexact⟩
      · obtain ⟨before, f, after, n, rfl, hexact⟩ := hlater call hmem
        exact ⟨e :: before, f, after, n, rfl, hexact⟩

end Register

/-! ### The main result -/

/-- **Countdowns start with exactly the seconds they are given.**  In a run with accepted
settings a client that starts its countdowns in 64 bits does what it does without a bound.  Every
start is of the time that the snapshot its event leaves sets for the phase of play, or else of
the one in the settings.  This is a number of whole seconds, at most `2 ^ 64 - 1`, and the
countdown starts with this number, unless it is zero: then the start is refused, and changes
nothing.  No countdown starts that is not on record. -/
theorem whole_seconds_started (settings : Settings) (hs : settings.Accepted) (es : List Event) :
    ∃ calls, ((fresh settings).runBy register es).run [] = some ((fresh settings).run es, calls) ∧
      ((fresh settings).run es).1.countdown.generation = calls.countP (·.starts) ∧
      ∀ call ∈ calls, ∃ before e after n, es = before ++ e :: after ∧
        call.Exact settings.limits ((fresh settings).run (before ++ [e])).1 n := by
  obtain ⟨calls, hrun, hgen, hexact⟩ := register_run hs (.fresh settings) es []
  refine ⟨calls, by rw [hrun, List.nil_append], ?_, hexact⟩
  rw [hgen]
  exact Nat.zero_add _

/-- A frame of a phase of play that gives some times. -/
def timedFrame (phase times : String) : String :=
  "\x7b\"code\":200,\"game\":\x7b\"state\":" ++ phase ++ ",\"round\":0,\"players\":[]" ++ times
    ++ "\x7d,\"curPlayer\":\x7b\"id\":\"a\"\x7d\x7d"

/-- Settings that give the longest time for the choice of a clue. -/
def longestPick : String := "\x7b\"timeouts\":\x7b\"pick\":18446744073709551615\x7d\x7d"

/-- The longest times of the settings and of a snapshot fit, to the last second. -/
theorem longest_times_started :
    let es : List Event := [.frame (timedFrame "2" ""),
      .frame (timedFrame "5" ",\"answerTimeout\":18446744073709551615")]
    ∃ settings calls, Settings.ofText longestPick = .ok settings ∧
      ((fresh settings).runBy register es).run [] = some ((fresh settings).run es, calls) ∧
      calls.map (·.time) = List.replicate 2 (.ofSeconds 18446744073709551615) ∧
      calls.countP (·.starts) = 2 ∧ (∀ call ∈ calls, ∃ n, call.time.roundUp? = some n) ∧
      ((fresh settings).run es).1.countdown.display = .running 18446744073709551615 2 := by
  intro es
  let settings : Settings := { Settings.default with
    limits := { Settings.default.limits with pick := .ofSeconds 18446744073709551615 } }
  have hread : Settings.ofText longestPick = .ok settings := by decide +kernel
  obtain ⟨calls, hrun, hgen, hexact⟩ := whole_seconds_started settings (.inr ⟨_, hread⟩) es
  have htimes : (((fresh settings).runBy register es).run []).map (fun r => r.2.map (·.time))
      = some (List.replicate 2 (.ofSeconds 18446744073709551615)) := by decide +kernel
  have hshown : ((fresh settings).run es).1.countdown
      = ⟨.running 18446744073709551615 2, 2, false⟩ := by decide +kernel
  rw [hrun] at htimes
  rw [hshown] at hgen
  refine ⟨settings, calls, hread, hrun, Option.some.inj htimes, hgen.symm, ?_, by rw [hshown]⟩
  intro call hcall
  obtain ⟨_, _, _, n, -, hstart⟩ := hexact call hcall
  exact ⟨n, hstart.fits⟩

/-- A time of no seconds starts no countdown. -/
theorem zero_seconds_refused :
    (((fresh .default).runBy register [.frame (timedFrame "2" ",\"pickTimeout\":0")]).run []).map
        (fun r => (r.2.map (·.time), r.2.map (·.starts), r.1.1.countdown.remaining))
      = some ([.ofSeconds 0], [false], none) := by
  decide +kernel

end Client

end QuizClient
