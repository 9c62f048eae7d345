import QuizClient.Proofs.ScoreHistory

/-!
# What the display of score changes holds

The display is told two lists of players, the one before and the one now.  What it then
holds can be said without the way in which it is found: for each player of the second list
whom the first one lists too, the difference of the scores, unless it is zero.  Of several
players with one identifier in the first list the first counts.  When nobody moved nothing
happens, and otherwise nothing of what was shown before is left.

From this it follows that a display never holds a change of zero and never holds two changes
of one player, not even after a list in which a player stands twice.

## Main definitions

* `FirstOf` — the first player of a list with an identifier.
* `Differences` — the changes from one list of players to the next.
* `ScoreChanges.Proper` — no change is zero, and no player has two.
* `ScoreChanges.Arises` — a display that its operations lead to.

## Main results

* `differences_iff` — there is exactly one list of changes.
* `proper_scoreChanges` — the changes between any two lists are proper.
* `changes_arise` — the display of a client in any run is one that its operations lead to.
* `display_holds_differences` — **what a display holds after it is told two lists, and in
  every state.**
-/

namespace QuizClient

/-! ### The changes from one list of players to the next -/

/-- The first player of a list with an identifier. -/
def FirstOf (ps : List Player) (id : String) (p : Player) : Prop :=
  p.id = id ∧ ∃ before after, ps = before ++ p :: after ∧ ∀ q ∈ before, q.id ≠ id

theorem firstOf_iff {ps : List Player} {id : String} {p : Player} :
    FirstOf ps id p ↔ ps.find? (·.id == id) = some p := by
  simp [FirstOf, List.find?_eq_some_iff_append]

/-- The changes from one list of players to the next, in the order of the next. -/
inductive Differences (previous : List Player) : List Player → List (String × Int) → Prop
  /-- Nobody is listed now. -/
  | nobody : Differences previous [] []
  /-- A player was not listed before. -/
  | unlisted {p : Player} {ps : List Player} {es : List (String × Int)}
      (h : ∀ q ∈ previous, q.id ≠ p.id) (rest : Differences previous ps es) :
      Differences previous (p :: ps) es
  /-- A player did not move. -/
  | unmoved {p before : Player} {ps : List Player} {es : List (String × Int)}
      (h : FirstOf previous p.id before) (same : p.score.toInt - before.score.toInt = 0)
      (rest : Differences previous ps es) : Differences previous (p :: ps) es
  /-- A player moved. -/
  | moved {p before : Player} {ps : List Player} {es : List (String × Int)}
      (h : FirstOf previous p.id before) (other : p.score.toInt - before.score.toInt ≠ 0)
      (rest : Differences previous ps es) :
      Differences previous (p :: ps) ((p.id, p.score.toInt - before.score.toInt) :: es)

theorem scoreChange?_of_unlisted {previous : List Player} {p : Player}
    (h : previous.find? (·.id == p.id) = none) : scoreChange? previous p = none := by
  simp [scoreChange?, h]

theorem find?_eq_none_of_unlisted {previous : List Player} {p : Player}
    (h : ∀ q ∈ previous, q.id ≠ p.id) : previous.find? (·.id == p.id) = none := by
  simpa using h

/-- **There is exactly one list of changes** from one list of players to the next. -/
theorem differences_iff {previous next : List Player} {es : List (String × Int)} :
    Differences previous next es ↔ es = next.filterMap (scoreChange? previous) := by
  constructor
  · intro h
    induction h with
    | nobody => rfl
    | unlisted h _ ih =>
      rw [List.filterMap_cons, scoreChange?_of_unlisted (find?_eq_none_of_unlisted h)]
      exact ih
    | unmoved h same _ ih =>
      rw [List.filterMap_cons, scoreChange?_of_before (firstOf_iff.mp h), if_pos same]
      exact ih
    | moved h other _ ih =>
      rw [List.filterMap_cons, scoreChange?_of_before (firstOf_iff.mp h), if_neg other, ih]
  · rintro rfl
    induction next with
    | nil => exact .nobody
    | cons p ps ih =>
      rw [List.filterMap_cons]
      cases hb : previous.find? (·.id == p.id) with
      | none =>
        rw [scoreChange?_of_unlisted hb]
        exact .unlisted (by simpa using hb) ih
      | some before =>
        rw [scoreChange?_of_before hb]
        by_cases same : p.score.toInt - before.score.toInt = 0
        · rw [if_pos same]
          exact .unmoved (firstOf_iff.mpr hb) same ih
        · rw [if_neg same]
          exact .moved (firstOf_iff.mpr hb) same ih

/-! ### Proper changes -/

namespace ScoreChanges

/-- No change is zero, and no player has two. -/
structure Proper (es : List (String × Int)) : Prop where
  /-- No player has two changes. -/
  distinct : (es.map Prod.fst).Nodup
  /-- No change is zero. -/
  nonzero : ∀ e ∈ es, e.2 ≠ 0

theorem proper_nil : Proper [] := ⟨List.nodup_nil, nofun⟩

theorem Proper.setEntry {es : List (String × Int)} (h : Proper es) (key : String) {value : Int}
    (hvalue : value ≠ 0) : Proper (setEntry es key value) := by
  by_cases hnew : key ∈ es.map Prod.fst
  · have hany : es.any (·.1 == key) = true := by simpa using hnew
    have hkeys : (es.map fun e => if e.1 == key then (key, value) else e).map Prod.fst
        = es.map Prod.fst := by
      rw [List.map_map]
      refine List.map_congr_left fun e _ => ?_
      by_cases heq : e.1 = key <;> simp [heq]
    rw [QuizClient.setEntry, if_pos hany]
    refine ⟨hkeys ▸ h.distinct, fun e he => ?_⟩
    obtain ⟨f, hf, rfl⟩ := List.mem_map.mp he
    by_cases heq : f.1 = key
    · simpa [heq] using hvalue
    · simpa [heq] using h.nonzero f hf
  · rw [setEntry_of_new hnew]
    refine ⟨?_, fun e he => ?_⟩
    · rw [List.map_append, List.nodup_append]
      refine ⟨h.distinct, by simp, fun a ha b hb heq => hnew ?_⟩
      rw [heq, List.mem_singleton.mp hb] at ha
      exact ha
    · rcases List.mem_append.mp he with he | he
      · exact h.nonzero e he
      · obtain rfl := List.mem_singleton.mp he
        exact hvalue

theorem proper_foldl_setEntry {es acc : List (String × Int)} (hacc : Proper acc)
    (h : ∀ e ∈ es, e.2 ≠ 0) :
    Proper (es.foldl (fun es e => QuizClient.setEntry es e.1 e.2) acc) := by
  induction es generalizing acc with
  | nil => exact hacc
  | cons e es ih =>
    obtain ⟨he, hes⟩ := List.forall_mem_cons.mp h
    exact ih (hacc.setEntry e.1 he) hes

/-- A change that is found is not zero. -/
theorem scoreChange?_ne_zero {previous : List Player} {p : Player} {e : String × Int}
    (h : scoreChange? previous p = some e) : e.2 ≠ 0 := by
  cases hb : previous.find? (·.id == p.id) with
  | none =>
    rw [scoreChange?_of_unlisted hb] at h
    cases h
  | some before =>
    rw [scoreChange?_of_before hb] at h
    split at h
    · cases h
    · next hne =>
      cases h
      exact hne

/-- **The changes between any two lists are proper**, also when a player is listed twice. -/
theorem proper_scoreChanges (previous next : List Player) :
    Proper (scoreChanges previous next) := by
  refine proper_foldl_setEntry proper_nil fun e he => ?_
  obtain ⟨p, -, hp⟩ := List.mem_filterMap.mp he
  exact scoreChange?_ne_zero hp

/-! ### Displays -/

/-- A display that its operations lead to, from a new one with a window. -/
inductive Arises (window : Duration) : ScoreChanges → Prop
  /-- It is new. -/
  | fresh : Arises window (.fresh window)
  /-- It was told two lists of players. -/
  | observe {s : ScoreChanges} (h : Arises window s) (previous next : List Player) :
      Arises window (s.observe previous next).1
  /-- An alarm came, of whatever generation. -/
  | expire {s : ScoreChanges} (h : Arises window s) (generation : Nat) :
      Arises window (s.expire generation).1
  /-- It was cleared. -/
  | clear {s : ScoreChanges} (h : Arises window s) : Arises window s.clear

theorem expire_cases (s : ScoreChanges) (generation : Nat) :
    (s.expire generation).1 = s ∨ (s.expire generation).1 = { s with entries := [] } := by
  unfold expire
  split
  · exact .inr rfl
  · exact .inl rfl

/-- A display keeps its window, and what it holds is proper. -/
theorem Arises.proper {window : Duration} {s : ScoreChanges} (h : Arises window s) :
    s.window = window ∧ Proper s.entries := by
  induction h with
  | fresh => exact ⟨rfl, proper_nil⟩
  | @observe s _ previous next ih =>
    by_cases hsame : scoreChanges previous next = []
    · rw [observe_of_same hsame]
      exact ih
    · rw [observe_of_moved hsame]
      exact ⟨ih.1, proper_scoreChanges previous next⟩
  | @expire s _ generation ih =>
    rcases expire_cases s generation with h | h
    · rw [h]
      exact ih
    · rw [h]
      exact ⟨ih.1, proper_nil⟩
  | clear _ ih => exact ⟨ih.1, proper_nil⟩

end ScoreChanges

/-! ### The display of a client -/

namespace Client

open ScoreChanges (Arises)

variable {window : Duration} {c : Client}

theorem arises_alarm (h : Arises window c.changes) (a : Alarm) :
    Arises window (c.alarm a).1.changes := by
  by_cases hdue : (c.position a.timeline).standing = .due a.generation
  · obtain ⟨t, n⟩ := a
    cases t with
    | countdown => exact h
    | reading =>
      obtain ⟨k, o, hc⟩ := alarm_reading_frame ((reading_due_iff c n).mp hdue)
      rw [hc]
      exact h
    | scores => exact h.expire n
    | advisory =>
      rw [alarm_advisory_of_due ((advisory_due_iff c n).mp hdue)]
      exact h
  · rw [alarm_eq_of_not_due hdue]
    exact h

theorem arises_receive (h : Arises window c.changes) (text : String) :
    Arises window (c.receive text).1.changes := by
  cases received c text with
  | ignored hc =>
    rw [hc]
    exact h
  | shown a hc =>
    rw [hc]
    exact h
  | rejected a hc =>
    rw [hc]
    exact h
  | unauthorized a hc =>
    rw [hc]
    exact h.clear
  | distrusted e hc =>
    rw [hc]
    exact h
  | updated g p advisory _ _ hc =>
    rw [hc, update_changes]
    exact h.observe _ _

/-- An event does to the display what one of its operations does, or nothing. -/
theorem arises_step (h : Arises window c.changes) (e : Event) :
    Arises window (c.step e).1.changes := by
  cases e with
  | frame text => exact arises_receive h text
  | alarm a => exact arises_alarm h a
  | action a =>
    obtain ⟨b, hb, -⟩ := step_action_frame c a
    rw [hb]
    exact h
  | refused r => exact h
  | leave => exact h.clear
  | reset => exact h.clear

/-- **The display of a client in any run is one that its operations lead to.** -/
theorem changes_arise (settings : Settings) (es : List Event) :
    Arises settings.scoreWindow ((fresh settings).run es).1.changes :=
  run_invariant (P := fun c => Arises settings.scoreWindow c.changes) arises_step .fresh es

end Client

/-! ### The main result -/

/-- **What a display holds.**  Told two lists of players, of which the second lists nobody
twice, it stays as it is and asks for nothing if nobody moved.  Otherwise it holds the
changes from the one to the other and nothing else, is of the next generation, and asks for
the one alarm of that generation after its window.  A display that its operations lead to,
such as that of a client in any run, holds no change of zero and no two changes of a
player. -/
theorem display_holds_differences :
    (∀ (s : ScoreChanges) (previous next : List Player), (next.map (·.id)).Nodup →
      ∃ es, Differences previous next es ∧ (∀ es', Differences previous next es' → es' = es) ∧
        (es = [] → s.observe previous next = (s, [])) ∧
        (es ≠ [] → s.observe previous next =
          (⟨es, s.generation + 1, s.window⟩,
            [⟨⟨.scores, s.generation + 1⟩, s.window⟩]))) ∧
    (∀ (window : Duration) (s : ScoreChanges), ScoreChanges.Arises window s →
      s.window = window ∧ (s.entries.map Prod.fst).Nodup ∧ ∀ e ∈ s.entries, e.2 ≠ 0) ∧
    ∀ (settings : Settings) (es : List Event),
      let s := ((Client.fresh settings).run es).1.changes
      s.window = settings.scoreWindow ∧ (s.entries.map Prod.fst).Nodup ∧
        ∀ e ∈ s.entries, e.2 ≠ 0 := by
  refine ⟨fun s previous next h => ?_, fun window s hs => ?_, fun settings es => ?_⟩
  · have hchanges : scoreChanges previous next = next.filterMap (scoreChange? previous) :=
      scoreChanges_eq h
    refine ⟨scoreChanges previous next, differences_iff.mpr hchanges, fun es' hes' => ?_,
      fun hsame => ScoreChanges.observe_of_same hsame s,
      fun hmoved => ScoreChanges.observe_of_moved hmoved s⟩
    rw [differences_iff.mp hes', hchanges]
  · exact ⟨hs.proper.1, hs.proper.2.distinct, hs.proper.2.nonzero⟩
  · have hs := (Client.changes_arise settings es).proper
    exact ⟨hs.1, hs.2.distinct, hs.2.nonzero⟩

/-- Of two players with one identifier before, the first counts; who is new or did not move
is left out, and of the changes shown earlier nothing is left. -/
theorem differences_replace_display :
    let seat (id : String) (score : Int64) : Player :=
      { Player.blank with id := id, score := score }
    let previous := [seat "a" 100, seat "b" 0, seat "a" 7, seat "d" 1]
    let next := [seat "c" 5, seat "b" (-50), seat "d" 1, seat "a" 7]
    let shown : ScoreChanges := ⟨[("d", 300)], 4, .ofSeconds 3⟩
    let told := ((ScoreChanges.fresh (.ofSeconds 3)).observe previous next).1
    (next.map (·.id)).Nodup ∧ (∀ e ∈ told.entries, e.2 ≠ 0) ∧
    shown.observe previous next =
      (⟨[("b", -50), ("a", -93)], 5, .ofSeconds 3⟩, [⟨⟨.scores, 5⟩, .ofSeconds 3⟩]) := by
  intro seat previous next shown told
  have harises : ScoreChanges.Arises (.ofSeconds 3) told := .observe .fresh previous next
  have hdistinct : (next.map (·.id)).Nodup := by decide
  obtain ⟨es, -, hunique, -, hmoved⟩ := display_holds_differences.1 shown previous next hdistinct
  have hes : [("b", -50), ("a", -93)] = es := by
    have ha : FirstOf previous (seat "a" 7).id (seat "a" 100) := ⟨rfl, [], _, rfl, nofun⟩
    have hb : FirstOf previous (seat "b" (-50)).id (seat "b" 0) :=
      ⟨rfl, [seat "a" 100], _, rfl, by decide⟩
    have hd : FirstOf previous (seat "d" 1).id (seat "d" 1) :=
      ⟨rfl, [seat "a" 100, seat "b" 0, seat "a" 7], [], rfl, by decide⟩
    refine hunique _ (.unlisted (by decide) ?_)
    refine .moved hb (by decide) ?_
    refine .unmoved hd (by decide) ?_
    exact .moved ha (by decide) .nobody
  subst hes
  exact ⟨hdistinct, (display_holds_differences.2.1 _ _ harises).2.2, hmoved (by decide)⟩

end QuizClient
