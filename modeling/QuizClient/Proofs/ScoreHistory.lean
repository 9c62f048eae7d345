import Mathlib.Algebra.Ring.Int.Defs
import QuizClient.Proofs.Snapshots

/-!
# The score changes of a run

A snapshot that moves scores asks for the alarm that takes the changes down again, and one
that moves none leaves on display whatever is there.  Reading the display right after a
snapshot therefore tells how far that snapshot moved a score, provided that it asked for
the alarm.  Added up along a run these readings are the score itself: whatever happens in
between, and paused snapshots too, no change is lost and none is counted twice.

## Main definitions

* `Recording`, `Client.recordings` — what the display tells right after each snapshot of a
  run.

## Main results

* `scoreChanges_eq` — the changes between two lists of players, when no player is listed
  twice.
* `lookup_scoreChanges` — the change of one player.
* `recorded_of_snapshot` — what the display tells right after a snapshot.
* `scores_add_up` — **no score change is lost or counted twice, in every run.**
-/

namespace QuizClient

/-! ### The changes between two lists of players -/

theorem setEntry_of_new {entries : List (String × Int)} {key : String}
    (h : key ∉ entries.map Prod.fst) (value : Int) :
    setEntry entries key value = entries ++ [(key, value)] := by
  have hany : entries.any (·.1 == key) = false := by
    rw [List.any_eq_false]
    intro e he heq
    exact h (List.mem_map.mpr ⟨e, he, by simpa using heq⟩)
  rw [setEntry, hany]
  rfl

/-- Entries with different keys are set one behind the other. -/
theorem foldl_setEntry {entries acc : List (String × Int)}
    (h : ((acc ++ entries).map Prod.fst).Nodup) :
    entries.foldl (fun es e => setEntry es e.1 e.2) acc = acc ++ entries := by
  induction entries generalizing acc with
  | nil => exact (List.append_nil acc).symm
  | cons e es ih =>
    have hassoc : acc ++ e :: es = acc ++ [e] ++ es := by simp
    have hnew : e.1 ∉ acc.map Prod.fst := fun hmem => by
      rw [List.map_append, List.nodup_append] at h
      exact h.2.2 _ hmem _ (List.mem_map_of_mem List.mem_cons_self) rfl
    rw [hassoc] at h ⊢
    rw [List.foldl_cons, setEntry_of_new hnew]
    exact ih h

theorem scoreChange?_key {previous : List Player} {p : Player} {e : String × Int}
    (h : scoreChange? previous p = some e) : e.1 = p.id := by
  unfold scoreChange? at h
  cases hb : previous.find? (·.id == p.id) with
  | none => simp [hb] at h
  | some before =>
    simp only [hb, Option.bind_eq_bind, Option.bind_some] at h
    split at h
    · cases h
    · cases h
      rfl

/-- How far the score of a player moved who was there before. -/
theorem scoreChange?_of_before {previous : List Player} {p before : Player}
    (h : previous.find? (·.id == p.id) = some before) :
    scoreChange? previous p =
      if p.score.toInt - before.score.toInt = 0 then none
      else some (p.id, p.score.toInt - before.score.toInt) := by
  simp [scoreChange?, h]

theorem keys_scoreChange?_sublist (previous next : List Player) :
    ((next.filterMap (scoreChange? previous)).map Prod.fst).Sublist (next.map (·.id)) := by
  induction next with
  | nil => exact List.Sublist.refl []
  | cons p ps ih =>
    rw [List.filterMap_cons, List.map_cons]
    cases hc : scoreChange? previous p with
    | none => exact ih.cons p.id
    | some e =>
      rw [List.map_cons, scoreChange?_key hc]
      exact ih.cons_cons p.id

/-- **The changes between two lists of players** are one for each player whose score moved,
when no player is listed twice. -/
theorem scoreChanges_eq {previous next : List Player} (h : (next.map (·.id)).Nodup) :
    scoreChanges previous next = next.filterMap (scoreChange? previous) :=
  foldl_setEntry ((keys_scoreChange?_sublist previous next).nodup h)

theorem scoreChanges_nil (next : List Player) : scoreChanges [] next = [] := by
  have hnone : next.filterMap (scoreChange? []) = [] :=
    List.filterMap_eq_nil_iff.mpr fun _ _ => rfl
  rw [scoreChanges, hnone]
  rfl

/-- **The change of one player** is the difference of the scores, where a player who is not
among the changes did not move. -/
theorem lookup_scoreChanges {previous next : List Player} (h : (next.map (·.id)).Nodup)
    {id : String} {p q : Player} (hp : previous.find? (·.id == id) = some p)
    (hq : next.find? (·.id == id) = some q) :
    ((scoreChanges previous next).lookup id).getD 0 = q.score.toInt - p.score.toInt := by
  rw [scoreChanges_eq h]
  induction next with
  | nil => cases hq
  | cons x xs ih =>
    obtain ⟨hx, hxs⟩ := List.nodup_cons.mp h
    by_cases hid : x.id = id
    · subst hid
      obtain rfl : x = q := by simpa using hq
      rw [List.filterMap_cons, scoreChange?_of_before hp]
      by_cases hzero : x.score.toInt - p.score.toInt = 0
      · -- the player did not move, and nobody behind has the same identifier
        have hnone : (xs.filterMap (scoreChange? previous)).lookup x.id = none := by
          rw [List.lookup_eq_none_iff]
          intro e he
          have hmem := (keys_scoreChange?_sublist previous xs).subset (List.mem_map_of_mem he)
          simp only [bne_iff_ne]
          intro heq
          rw [← heq] at hmem
          exact hx hmem
        rw [if_pos hzero, hzero]
        simp [hnone]
      · rw [if_neg hzero]
        simp
    · have hrest := ih hxs (by simpa [hid] using hq)
      rw [List.filterMap_cons]
      cases hc : scoreChange? previous x with
      | none => exact hrest
      | some e =>
        have hother : (id == e.1) = false := by
          rw [scoreChange?_key hc, beq_eq_false_iff_ne]
          exact fun heq => hid heq.symm
        obtain ⟨key, value⟩ := e
        simpa [List.lookup_cons, hother] using hrest

/-- Who did not move and who was not there before is not among the changes. -/
example :
    let seat (id : String) (score : Int64) : Player :=
      { Player.blank with id := id, score := score }
    scoreChanges [seat "a" 100, seat "b" 0] [seat "c" 7, seat "b" (-50), seat "a" 100]
      = [("b", -50)] := by
  decide

theorem Game.exists_player? {g : Game} {id : String} (h : id ∈ g.players.map (·.id)) :
    ∃ p, g.player? id = some p := by
  rw [← Option.isSome_iff_exists, Game.player?, List.find?_isSome]
  simpa using h

/-! ### The display -/

namespace ScoreChanges

theorem observe_of_same {previous next : List Player} (h : scoreChanges previous next = [])
    (s : ScoreChanges) : s.observe previous next = (s, []) := by
  simp only [observe, h]

theorem observe_of_moved {previous next : List Player} (h : scoreChanges previous next ≠ [])
    (s : ScoreChanges) :
    s.observe previous next =
      ({ s with entries := scoreChanges previous next, generation := s.generation + 1 },
        [Timeline.scores.wake (s.generation + 1) s.window]) := by
  unfold observe
  split
  · next hnil => exact absurd hnil h
  · rfl

end ScoreChanges

namespace Client

/-- A snapshot asks for the alarm of score changes when, and only when, it moves scores. -/
theorem asked_scores_update (c : Client) (g : Game) (p : Player) (advisory : Option String) :
    asked .scores (c.update g p advisory).2.2 = [] ↔
      scoreChanges c.latest.game.players g.players = [] := by
  have hcourse := update_leads c g p advisory .scores
  have hchanges : (c.update g p advisory).1.changes
      = (c.changes.observe c.latest.game.players g.players).1 := update_changes c g p advisory
  by_cases h : scoreChanges c.latest.game.players g.players = []
  · -- the display stays, so no generation is left that an alarm could be of
    rw [ScoreChanges.observe_of_same h] at hchanges
    simp only [h, iff_true]
    rw [List.eq_nil_iff_forall_not_mem]
    intro n hn
    have hbounds := hcourse.bounds.2 n hn
    simp only [position, hchanges] at hbounds
    omega
  · -- a new display is up, and what it expects was asked for on the way
    rw [ScoreChanges.observe_of_moved h] at hchanges
    simp only [h, iff_false]
    intro hnone
    have hdue : ((c.update g p advisory).1.position .scores).standing
        = .due (c.changes.generation + 1) :=
      (scores_due_iff _ _).mpr (by rw [hchanges]; exact ⟨rfl, h⟩)
    rcases hcourse.due_mem hdue with hbefore | hmem
    · have := ((scores_due_iff _ _).mp hbefore).1
      omega
    · rw [hnone] at hmem
      cases hmem

/-! ### What is recorded -/

/-- What the display tells right after a snapshot. -/
structure Recording where
  /-- The snapshot. -/
  game : Game
  /-- How far it moved the score of a player. -/
  change : String → Int

/-- What the display tells of a player right after an event: the change that is shown, if
the event asked for it to be taken down, and none otherwise. -/
def recorded (c : Client) (e : Event) (id : String) : Int :=
  if asked .scores (c.step e).2.2 = [] then 0 else ((c.step e).1.changes.get? id).getD 0

/-- What the display tells right after each snapshot of a run. -/
def recordings (c : Client) : List Event → List Recording
  | [] => []
  | e :: es => ((c.snapshot? e).map (⟨·, c.recorded e⟩)).toList ++ (c.step e).1.recordings es

theorem recordings_of_none {c : Client} {e : Event} (h : c.snapshot? e = none) (es : List Event) :
    c.recordings (e :: es) = (c.step e).1.recordings es := by
  simp [recordings, h]

theorem recordings_of_some {c : Client} {e : Event} {g : Game} (h : c.snapshot? e = some g)
    (es : List Event) :
    c.recordings (e :: es) = ⟨g, c.recorded e⟩ :: (c.step e).1.recordings es := by
  simp [recordings, h]

/-- There is one recording for each snapshot. -/
theorem map_game_recordings (c : Client) (es : List Event) :
    (c.recordings es).map (·.game) = c.snapshots es := by
  induction es generalizing c with
  | nil => rfl
  | cons e es ih =>
    cases h : c.snapshot? e with
    | none => simp [recordings_of_none h, h, ih]
    | some g => simp [recordings_of_some h, h, ih]

/-- **What the display tells right after a snapshot** is how far the snapshot moved the
score. -/
theorem recorded_of_snapshot {c : Client} {text : String} {g : Game} {p : Player}
    {advisory : Option String} (h : c.receive text = c.update g p advisory) (id : String) :
    c.recorded (.frame text) id =
      ((scoreChanges c.latest.game.players g.players).lookup id).getD 0 := by
  simp only [recorded, step_frame, h, asked_scores_update]
  by_cases hsame : scoreChanges c.latest.game.players g.players = []
  · simp [hsame]
  · have hchanges : (c.update g p advisory).1.changes
        = (c.changes.observe c.latest.game.players g.players).1 := update_changes c g p advisory
    rw [ScoreChanges.observe_of_moved hsame] at hchanges
    rw [if_neg hsame, hchanges]
    rfl

/-! ### Runs -/

/-- What is recorded in a run in which the game is not forgotten adds up to how far the run
moved a score. -/
theorem sum_recordings {c : Client} {es : List Event} (hes : ∀ e ∈ es, e.forgets = false)
    {id : String} {p : Player} (hp : c.latest.game.player? id = some p)
    (hall : ∀ r ∈ c.recordings es,
      (r.game.players.map (·.id)).Nodup ∧ id ∈ r.game.players.map (·.id)) :
    ∃ q, (c.run es).1.latest.game.player? id = some q ∧
      ((c.recordings es).map (·.change id)).sum = q.score.toInt - p.score.toInt := by
  induction es generalizing c p with
  | nil => exact ⟨p, hp, (Int.sub_self _).symm⟩
  | cons e es ih =>
    have hrest : ∀ f ∈ es, f.forgets = false := fun f hf => hes f (List.mem_cons_of_mem e hf)
    rw [run_cons]
    cases brings c e with
    | nothing hnone hlatest =>
      rw [recordings_of_none hnone] at hall ⊢
      exact ih hrest (by rwa [hlatest]) hall
    | oblivion hforgets =>
      rw [hes e List.mem_cons_self] at hforgets
      cases hforgets
    | snapshot text g _ _ he _ _ hsome _ hstep hlatest =>
      rw [recordings_of_some hsome] at hall ⊢
      obtain ⟨hnodup, hmem⟩ := hall _ List.mem_cons_self
      obtain ⟨m, hm⟩ := Game.exists_player? hmem
      have hnext : (c.step e).1.latest.game.player? id = some m := by
        rw [hlatest]
        exact hm
      obtain ⟨q, hq, hsum⟩ := ih hrest hnext fun r hr => hall r (List.mem_cons_of_mem _ hr)
      have hfirst : c.recorded e id = m.score.toInt - p.score.toInt := by
        rw [he, recorded_of_snapshot hstep]
        exact lookup_scoreChanges hnodup hp hm
      refine ⟨q, hq, ?_⟩
      rw [List.map_cons, List.sum_cons, hsum]
      show c.recorded e id + _ = _
      rw [hfirst]
      omega

/-- The same from the first snapshot of the run on. -/
theorem sum_after_first {c : Client} {es : List Event} {r : Recording} {rs : List Recording}
    (hr : c.recordings es = r :: rs) (hes : ∀ e ∈ es, e.forgets = false) {id : String}
    (hall : ∀ s ∈ r :: rs,
      (s.game.players.map (·.id)).Nodup ∧ id ∈ s.game.players.map (·.id)) :
    ∃ p q, r.game.player? id = some p ∧
      ((r :: rs).getLast (List.cons_ne_nil r rs)).game.player? id = some q ∧
      (rs.map (·.change id)).sum = q.score.toInt - p.score.toInt := by
  induction es generalizing c with
  | nil => cases hr
  | cons e es ih =>
    have hrest : ∀ f ∈ es, f.forgets = false := fun f hf => hes f (List.mem_cons_of_mem e hf)
    cases brings c e with
    | nothing hnone =>
      rw [recordings_of_none hnone] at hr
      exact ih hr hrest
    | oblivion hforgets =>
      rw [hes e List.mem_cons_self] at hforgets
      cases hforgets
    | snapshot _ g _ _ _ _ _ hsome _ _ hlatest =>
      rw [recordings_of_some hsome] at hr
      obtain ⟨rfl, rfl⟩ := List.cons.inj hr
      obtain ⟨p, hp⟩ := Game.exists_player? (hall _ List.mem_cons_self).2
      have hfirst : (c.step e).1.latest.game.player? id = some p := by
        rw [hlatest]
        exact hp
      obtain ⟨q, hq, hsum⟩ := sum_recordings hrest hfirst
        fun s hs => hall s (List.mem_cons_of_mem _ hs)
      refine ⟨p, q, hp, ?_, hsum⟩
      -- the run ends with the last snapshot as its latest one
      rw [game_run _ hrest, ← map_game_recordings, hlatest] at hq
      rw [← hq]
      cases (c.step e).1.recordings es with
      | nil => rfl
      | cons s ss => simp [List.getLast?_cons, List.getLast_cons, List.getLast_eq_getLastD]

/-- A client has no players to compare with, or takes no snapshot before it starts over. -/
def Unscored (c : Client) : Prop := c.halted = true ∨ c.latest.game.players = []

/-- A game that was forgotten leaves nobody to compare with. -/
theorem unscored_of_forgets (c : Client) {e : Event} (h : e.forgets = true) :
    (c.step e).1.Unscored := by
  cases brings c e with
  | nothing _ _ hhalted hforgets => exact .inl (hhalted (hforgets h))
  | oblivion _ _ hlatest => exact .inr (by rw [hlatest]; rfl)
  | snapshot _ _ _ _ _ _ _ _ hforgets =>
    rw [h] at hforgets
    cases hforgets

/-- The first snapshot of a client that has nobody to compare with records no change. -/
theorem Unscored.recordings {c : Client} (h : c.Unscored) {es : List Event} {r : Recording}
    {rs : List Recording} (hr : c.recordings es = r :: rs) (id : String) : r.change id = 0 := by
  induction es generalizing c with
  | nil => cases hr
  | cons e es ih =>
    cases brings c e with
    | nothing hnone hlatest hhalted =>
      rw [recordings_of_none hnone] at hr
      refine ih (h.imp hhalted fun hplayers => ?_) hr
      rw [hlatest]
      exact hplayers
    | oblivion hforgets hnone =>
      rw [recordings_of_none hnone] at hr
      exact ih (unscored_of_forgets c hforgets) hr
    | snapshot text g _ _ he hh _ hsome _ hstep =>
      have hplayers : c.latest.game.players = [] := h.resolve_left (by simp [hh])
      rw [recordings_of_some hsome] at hr
      obtain ⟨rfl, -⟩ := List.cons.inj hr
      show c.recorded e id = 0
      rw [he, recorded_of_snapshot hstep, hplayers, scoreChanges_nil]
      rfl

/-- **No score change is lost or counted twice**, in every run.  In a stretch of it in which
the game is not forgotten, and in whose snapshots no player is listed twice, what was
recorded of a player after the first snapshot adds up to the score in the last snapshot
without the score in the first.  The first snapshot of a run, and the first after the game
was forgotten, records no change at all. -/
theorem scores_add_up (settings : Settings) (pre es : List Event) :
    let c := ((fresh settings).run pre).1
    (∀ r rs, c.recordings es = r :: rs → (∀ e ∈ es, e.forgets = false) → ∀ id,
      (∀ s ∈ r :: rs, (s.game.players.map (·.id)).Nodup ∧ id ∈ s.game.players.map (·.id)) →
        ∃ p q, r.game.player? id = some p ∧
          ((r :: rs).getLast (List.cons_ne_nil r rs)).game.player? id = some q ∧
          (rs.map (·.change id)).sum = q.score.toInt - p.score.toInt) ∧
    ((pre = [] ∨ ∃ before e, pre = before ++ [e] ∧ e.forgets = true) →
      ∀ r rs, c.recordings es = r :: rs → ∀ id, r.change id = 0) := by
  intro c
  refine ⟨fun r rs hr hes id hall => sum_after_first hr hes hall, fun hpre r rs hr id => ?_⟩
  have hunscored : c.Unscored := by
    rcases hpre with rfl | ⟨before, e, rfl, he⟩
    · exact .inr rfl
    · show ((fresh settings).run (before ++ [e])).1.Unscored
      rw [run_concat]
      exact unscored_of_forgets _ he
  exact hunscored.recordings hr id

end Client

end QuizClient
