import QuizClient.Proofs.Components
import QuizClient.Proofs.ReadingTime
import QuizClient.Proofs.Streams

/-!
# Settings documents

A settings document has twelve numbers, each with a place of its own, a default for when
nothing stands there, and a unit of time.  A text holds a document when it spells a tree in
which only integers of 64 unsigned bits stand in those places; then each number is the one in
its place or its default, whatever stands in the other places.  The settings are refused for
exactly what is unsound about the numbers, all of it at once, and what a client loads is sound
whatever its source holds.

## Main definitions

* `Spot`, `Spot.all` — the numbers of a document, with their places, defaults and units.
* `Document.Stands` — a document stands in a tree.
* `Document.Violates` — what is unsound about a document.
* `Settings.Sound` — settings that nothing is unsound about.
* `SettingsSource.Holds` — the settings that a source holds.

## Main results

* `Document.ofDraft_eq_ok_iff` — a tree is read as the document that stands in it.
* `Document.mem_violations_iff`, `Document.violations_nodup` — the report is exact.
* `Settings.Accepted.sound` — accepted settings are sound.
* `Settings.documents_checked` — **settings are those of a sound document, or the default.**
-/

namespace QuizClient

open Json

theorem bind_of_eq_ok {ε α β : Type} {x : Except ε α} {a : α} (h : x = .ok a)
    (f : α → Except ε β) : x >>= f = f a := by
  rw [h]
  rfl

/-! ### The numbers of a document -/

namespace Document

/-- What a number is when something stands in its place, or nothing does. -/
def Shows (blank n : UInt64) : Option Draft → Prop
  | none => n = blank
  | some t => t = .number (.integer n.toNat)

theorem toUnsigned?_eq_ok_iff {found : Found} {n : UInt64} :
    found.toUnsigned? = .ok n ↔ found = .number (.integer n.toNat) := by
  constructor
  · intro h
    unfold Found.toUnsigned? at h
    split at h
    · next i =>
      split at h
      · next hfits =>
        cases h
        have hsize : i.toNat < UInt64.size := by omega
        rw [UInt64.toNat_ofNat_of_lt' hsize, Int.toNat_of_nonneg hfits.1]
      · cases h
    · cases h
  · rintro rfl
    rw [Codec.toUnsigned?_ofNat n.toNat_lt_size, UInt64.ofNat_toNat]

theorem found_eq_integer_iff {t : Draft} {i : Int} :
    t.found = .ok (.number (.integer i)) ↔ t = .number (.integer i) := by
  constructor
  · intro h
    cases t with
    | number m =>
      rw [Draft.found] at h
      split at h
      · cases h
        rfl
      · cases h
    | string content => cases content <;> cases h
    | _ => cases h
  · rintro rfl
    rfl

/-- Integers of 64 unsigned bits are read, and nothing else is. -/
theorem unsigned_eq_ok_iff {t : Draft} {n : UInt64} :
    unsigned t = .ok n ↔ t = .number (.integer n.toNat) := by
  constructor
  · intro h
    obtain ⟨found, hfound, hread⟩ := exists_of_bind_eq_ok h
    obtain rfl := toUnsigned?_eq_ok_iff.mp hread
    exact found_eq_integer_iff.mp hfound
  · intro h
    rw [unsigned, bind_of_eq_ok (found_eq_integer_iff.mpr h)]
    exact toUnsigned?_eq_ok_iff.mpr rfl

theorem part_unsigned_iff {blank n : UInt64} {o : Option Draft} :
    Part unsigned blank n o ↔ Shows blank n o := by
  cases o with
  | none => exact .rfl
  | some t => exact unsigned_eq_ok_iff

/-- The components of the reading times. -/
def paceCells : List (Cell PaceNumbers) := [
  ⟨"perWordMs", unsigned, (·.perWord), fun a p => { p with perWord := a }⟩,
  ⟨"minMs", unsigned, (·.least), fun a p => { p with least := a }⟩,
  ⟨"maxMs", unsigned, (·.most), fun a p => { p with most := a }⟩]

theorem pace_consists : paceRecord.Consists paceCells where
  fields := rfl
  distinct := by decide
  get_set := by simp [paceCells]
  frame := by simp [paceCells]
  ext := by
    rintro ⟨⟩ ⟨⟩ h
    simpa [paceCells] using h

/-- The components of the times. -/
def limitCells : List (Cell LimitNumbers) := [
  ⟨"pick", unsigned, (·.pick), fun a l => { l with pick := a }⟩,
  ⟨"buzz", unsigned, (·.buzz), fun a l => { l with buzz := a }⟩,
  ⟨"answer", unsigned, (·.answer), fun a l => { l with answer := a }⟩,
  ⟨"wager", unsigned, (·.wager), fun a l => { l with wager := a }⟩,
  ⟨"finalAnswer", unsigned, (·.finalAnswer), fun a l => { l with finalAnswer := a }⟩,
  ⟨"finalWager", unsigned, (·.finalWager), fun a l => { l with finalWager := a }⟩,
  ⟨"vote", unsigned, (·.vote), fun a l => { l with vote := a }⟩]

theorem limit_consists : limitRecord.Consists limitCells where
  fields := rfl
  distinct := by decide
  get_set := by simp [limitCells]
  frame := by simp [limitCells]
  ext := by
    rintro ⟨⟩ ⟨⟩ h
    simpa [limitCells] using h

/-- The components of a document. -/
def cells : List (Cell Document) := [
  ⟨"scoreDeltaWindowMs", unsigned, (·.scoreWindow), fun a d => { d with scoreWindow := a }⟩,
  ⟨"advisoryWindowMs", unsigned, (·.advisoryWindow), fun a d => { d with advisoryWindow := a }⟩,
  ⟨"buzzBlock", paceRecord.ofDraft, (·.pace), fun a d => { d with pace := a }⟩,
  ⟨"timeouts", limitRecord.ofDraft, (·.limits), fun a d => { d with limits := a }⟩]

theorem consists : record.Consists cells where
  fields := rfl
  distinct := by decide
  get_set := by simp [cells]
  frame := by simp [cells]
  ext := by
    rintro ⟨⟩ ⟨⟩ h
    simpa [cells] using h

end Document

/-! ### Places -/

/-- A number of a document. -/
structure Spot where
  /-- What stands in its place in the tree of the document. -/
  place : Draft → Option Draft
  /-- Its default. -/
  blank : UInt64
  /-- The number in the document. -/
  number : Document → UInt64
  /-- The time that it makes. -/
  time : Settings → Duration
  /-- The nanoseconds that it counts. -/
  unit : Nat

/-- The tree of the reading times. -/
def Json.Draft.paceTree (d : Draft) : Option Draft := d.part 2 "buzzBlock"

/-- The tree of the times. -/
def Json.Draft.limitTree (d : Draft) : Option Draft := d.part 3 "timeouts"

/-- How long things stay up, in milliseconds. -/
def Spot.windows : List Spot := [
  ⟨(·.part 0 "scoreDeltaWindowMs"), 3000, (·.scoreWindow), (·.scoreWindow), nanosPerMilli⟩,
  ⟨(·.part 1 "advisoryWindowMs"), 5000, (·.advisoryWindow), (·.advisoryWindow), nanosPerMilli⟩]

/-- The reading times, in milliseconds. -/
def Spot.paces : List Spot := [
  ⟨(·.paceTree.bind (·.part 0 "perWordMs")), 250, (·.pace.perWord), (·.pace.perWord),
    nanosPerMilli⟩,
  ⟨(·.paceTree.bind (·.part 1 "minMs")), 1000, (·.pace.least), (·.pace.least), nanosPerMilli⟩,
  ⟨(·.paceTree.bind (·.part 2 "maxMs")), 5000, (·.pace.most), (·.pace.most), nanosPerMilli⟩]

/-- The times, in seconds. -/
def Spot.limits : List Spot := [
  ⟨(·.limitTree.bind (·.part 0 "pick")), 10, (·.limits.pick), (·.limits.pick), nanosPerSecond⟩,
  ⟨(·.limitTree.bind (·.part 1 "buzz")), 10, (·.limits.buzz), (·.limits.buzz), nanosPerSecond⟩,
  ⟨(·.limitTree.bind (·.part 2 "answer")), 10, (·.limits.answer), (·.limits.answer),
    nanosPerSecond⟩,
  ⟨(·.limitTree.bind (·.part 3 "wager")), 10, (·.limits.wager), (·.limits.wager),
    nanosPerSecond⟩,
  ⟨(·.limitTree.bind (·.part 4 "finalAnswer")), 30, (·.limits.finalAnswer),
    (·.limits.finalAnswer), nanosPerSecond⟩,
  ⟨(·.limitTree.bind (·.part 5 "finalWager")), 30, (·.limits.finalWager), (·.limits.finalWager),
    nanosPerSecond⟩,
  ⟨(·.limitTree.bind (·.part 6 "vote")), 10, (·.limits.vote), (·.limits.vote), nanosPerSecond⟩]

/-- The numbers of a document. -/
def Spot.all : List Spot := windows ++ (paces ++ limits)

namespace Document

/-- The numbers of some spots are those of a tree. -/
def Agrees (d : Document) (tree : Draft) (spots : List Spot) : Prop :=
  ∀ spot ∈ spots, Shows spot.blank (spot.number d) (spot.place tree)

/-- A document stands in a tree. -/
structure Stands (d : Document) (tree : Draft) : Prop where
  /-- The tree has each key once at most. -/
  suits : tree.Suits ["scoreDeltaWindowMs", "advisoryWindowMs", "buzzBlock", "timeouts"]
  /-- So do the reading times. -/
  pace : ∀ t ∈ tree.paceTree, t.Suits ["perWordMs", "minMs", "maxMs"]
  /-- So do the times. -/
  limits : ∀ t ∈ tree.limitTree,
    t.Suits ["pick", "buzz", "answer", "wager", "finalAnswer", "finalWager", "vote"]
  /-- Each number stands in its place, or is the default. -/
  numbers : d.Agrees tree Spot.all

section

variable {d : Document} {tree : Draft}

/-- What the reading times are read from and to. -/
theorem part_pace_iff (hwhole : tree.whole = true) :
    Part paceRecord.ofDraft paceRecord.blank d.pace tree.paceTree ↔
      (∀ t ∈ tree.paceTree, t.Suits ["perWordMs", "minMs", "maxMs"]) ∧
        d.Agrees tree Spot.paces := by
  have hpart : ∀ t ∈ tree.paceTree, t.whole = true := fun t ht => Draft.whole_of_part hwhole ht
  rw [pace_consists.part_iff hpart, Agrees, ← List.forall_iff_forall_mem,
    ← List.forall_iff_forall_mem]
  simp only [← part_unsigned_iff]
  exact .rfl

/-- What the times are read from and to. -/
theorem part_limit_iff (hwhole : tree.whole = true) :
    Part limitRecord.ofDraft limitRecord.blank d.limits tree.limitTree ↔
      (∀ t ∈ tree.limitTree,
        t.Suits ["pick", "buzz", "answer", "wager", "finalAnswer", "finalWager", "vote"]) ∧
        d.Agrees tree Spot.limits := by
  have hpart : ∀ t ∈ tree.limitTree, t.whole = true := fun t ht => Draft.whole_of_part hwhole ht
  rw [limit_consists.part_iff hpart, Agrees, ← List.forall_iff_forall_mem,
    ← List.forall_iff_forall_mem]
  simp only [← part_unsigned_iff]
  exact .rfl

/-- **A tree is read as the document that stands in it.** -/
theorem ofDraft_eq_ok_iff (hwhole : tree.whole = true) :
    record.ofDraft tree = .ok d ↔ d.Stands tree := by
  rw [consists.ofDraft_eq_ok_iff hwhole, ← List.forall_iff_forall_mem]
  constructor
  · rintro ⟨hsuits, hscore, hadvisory, hpace, hlimits⟩
    obtain ⟨hpacesuits, hpaces⟩ := (part_pace_iff hwhole).mp hpace
    obtain ⟨hlimitsuits, hlimits⟩ := (part_limit_iff hwhole).mp hlimits
    have hwindows : d.Agrees tree Spot.windows := List.forall_iff_forall_mem.mp
      ⟨part_unsigned_iff.mp hscore, part_unsigned_iff.mp hadvisory⟩
    refine ⟨hsuits, hpacesuits, hlimitsuits, ?_⟩
    exact List.forall_mem_append.mpr ⟨hwindows, List.forall_mem_append.mpr ⟨hpaces, hlimits⟩⟩
  · rintro ⟨hsuits, hpacesuits, hlimitsuits, hnumbers⟩
    obtain ⟨hwindows, hrest⟩ := List.forall_mem_append.mp hnumbers
    obtain ⟨hpaces, hlimits⟩ := List.forall_mem_append.mp hrest
    obtain ⟨hscore, hadvisory⟩ := List.forall_iff_forall_mem.mpr hwindows
    exact ⟨hsuits, part_unsigned_iff.mpr hscore, part_unsigned_iff.mpr hadvisory,
      (part_pace_iff hwhole).mpr ⟨hpacesuits, hpaces⟩,
      (part_limit_iff hwhole).mpr ⟨hlimitsuits, hlimits⟩⟩

end

/-- **A text holds the document that stands in the tree it spells.** -/
theorem ofText_eq_ok_iff {text : String} {d : Document} :
    ofText text = .ok d ↔ ∃ tree, Spells text.toList (.value tree) ∧ d.Stands tree := by
  constructor
  · intro h
    obtain ⟨d', hread, hend⟩ := exists_of_bind_eq_ok h
    split at hend
    · next hended =>
      cases hend
      have htext : Spells text.toList (.value (Draft.ofText text).1) :=
        spells_iff_ofText.mpr (Prod.ext rfl hended)
      exact ⟨_, htext, (ofDraft_eq_ok_iff htext.tree.whole).mp hread⟩
    · cases hend
  · rintro ⟨tree, htext, hstands⟩
    rw [ofText, Draft.readText, spells_iff_ofText.mp htext]
    dsimp only
    rw [(ofDraft_eq_ok_iff htext.tree.whole).mpr hstands]
    rfl

/-- The times that a document makes are its numbers in their units. -/
theorem nanos_settings (d : Document) :
    ∀ spot ∈ Spot.all, (spot.time d.settings).nanos = (spot.number d).toNat * spot.unit := by
  rw [← List.forall_iff_forall_mem]
  exact ⟨rfl, rfl, rfl, rfl, rfl, rfl, rfl, rfl, rfl, rfl, rfl, rfl⟩

/-! ### What is unsound -/

/-- A document that nothing is unsound about. -/
structure Sound (d : Document) : Prop where
  /-- No number that must not be zero is. -/
  positive : ∀ e, 1 ≤ d.entry e
  /-- The reading times do not cross. -/
  ordered : d.pace.least ≤ d.pace.most

theorem one_le_iff_ne_zero {n : UInt64} : 1 ≤ n ↔ n ≠ 0 := by
  rw [UInt64.le_iff_toNat_le, Ne, ← UInt64.toNat_inj]
  exact Nat.one_le_iff_ne_zero

theorem sound_iff {d : Document} : d.Sound ↔ d.violations = [] := by
  rw [violations_eq_nil_iff]
  constructor
  · rintro ⟨hpositive, hordered⟩
    exact ⟨fun e => one_le_iff_ne_zero.mp (hpositive e), hordered⟩
  · rintro ⟨hpositive, hordered⟩
    exact ⟨fun e => one_le_iff_ne_zero.mpr (hpositive e), hordered⟩

/-- What is unsound about a document. -/
inductive Violates (d : Document) : Violation → Prop where
  /-- A number that must not be zero is. -/
  | zero (e : Entry) (h : d.entry e = 0) : Violates d (.zero e)
  /-- The reading times cross. -/
  | crossed (h : d.pace.most < d.pace.least) : Violates d (.crossed d.pace.least d.pace.most)

/-- **What is reported is what is unsound.** -/
theorem mem_violations_iff {d : Document} {v : Violation} : v ∈ d.violations ↔ d.Violates v := by
  rw [violations, List.mem_append, List.mem_map]
  constructor
  · rintro (⟨e, he, rfl⟩ | hcrossed)
    · exact .zero e (by simpa using (List.mem_filter.mp he).2)
    · split at hcrossed
      · next h =>
        obtain rfl := List.mem_singleton.mp hcrossed
        exact .crossed h
      · cases hcrossed
  · rintro (⟨e, h⟩ | h)
    · exact .inl ⟨e, List.mem_filter.mpr ⟨e.mem_all, by simpa using h⟩, rfl⟩
    · rw [if_pos h]
      exact .inr (List.mem_singleton.mpr rfl)

/-- Nothing is reported twice. -/
theorem violations_nodup (d : Document) : d.violations.Nodup := by
  have hall : Entry.all.Nodup := by decide
  have hzero : ((Entry.all.filter fun e => d.entry e == 0).map Violation.zero).Nodup :=
    (hall.filter _).map fun e e' h => Violation.zero.inj h
  refine hzero.append ?_ ?_
  · split
    · exact List.nodup_singleton _
    · exact List.nodup_nil
  · -- a crossing is no zero
    intro v hv hcrossed
    obtain ⟨e, -, rfl⟩ := List.mem_map.mp hv
    split at hcrossed
    · cases List.mem_singleton.mp hcrossed
    · cases hcrossed

end Document

/-! ### Loading -/

/-- Settings that a source holds: it is a file of some text, which they are read from. -/
def SettingsSource.Holds (source : SettingsSource) (s : Settings) : Prop :=
  ∃ text, source = .file (Text.toUtf8 text) ∧ Settings.ofText text = .ok s

namespace Settings

/-- Settings that nothing is unsound about. -/
structure Sound (s : Settings) : Prop where
  /-- Score changes stay up for a millisecond at least. -/
  scoreWindow : .ofMillis 1 ≤ s.scoreWindow
  /-- So does a passing advisory. -/
  advisoryWindow : .ofMillis 1 ≤ s.advisoryWindow
  /-- The reading times do not cross. -/
  pace : s.pace.least ≤ s.pace.most
  /-- There is a second at least for everything. -/
  limits : ∀ d ∈ s.limits.all, .ofSeconds 1 ≤ d

/-- Accepted settings are sound. -/
theorem Accepted.sound {s : Settings} (h : s.Accepted) : s.Sound := by
  obtain ⟨d, hviolations, rfl⟩ := h.exists_document
  have hsound := Document.sound_iff.mpr hviolations
  exact {
    scoreWindow := Duration.ofMillis_le_ofMillis (hsound.positive .scoreWindow)
    advisoryWindow := Duration.ofMillis_le_ofMillis (hsound.positive .advisoryWindow)
    pace := h.least_le_most
    limits := h.second_le }

/-- A text that holds no document holds no settings. -/
theorem ofText_of_error {text : String} {f : Fault} (h : Document.ofText text = .error f) :
    ofText text = .error (.unreadable f) := by
  rw [ofText, h]
  rfl

/-- An unsound document is refused for all that is unsound about it. -/
theorem ofText_of_unsound {text : String} {d : Document} (h : Document.ofText text = .ok d)
    (hunsound : ¬ d.Sound) : ofText text = .error (.unsound d.violations) := by
  have hviolations : d.violations ≠ [] := mt Document.sound_iff.mpr hunsound
  have hread : (Document.ofText text).mapError SettingsError.unreadable = .ok d := by
    rw [h]
    rfl
  rw [ofText, bind_of_eq_ok hread]
  split
  · next hnone => exact absurd hnone hviolations
  · rfl

/-- The settings of a source are those that it holds. -/
theorem load_of_holds {source : SettingsSource} {s : Settings} (h : source.Holds s) :
    load source = s := by
  obtain ⟨text, rfl, hread⟩ := h
  simp only [load, Text.ofUtf8?_eq_some_iff.mpr rfl, hread]

/-- A source that holds no settings gives the default ones. -/
theorem load_of_holds_none {source : SettingsSource} (h : ¬ ∃ s, source.Holds s) :
    load source = default := by
  cases source with
  | missing | unreadable => rfl
  | file bytes =>
    cases htext : Text.ofUtf8? bytes with
    | none => simp only [load, htext]
    | some text =>
      cases hread : ofText text with
      | error e => simp only [load, htext, hread]
      | ok s =>
        obtain rfl := Text.ofUtf8?_eq_some_iff.mp htext
        exact absurd ⟨s, text, rfl, hread⟩ h

/-- Every source gives accepted settings. -/
theorem accepted_load (source : SettingsSource) : (load source).Accepted := by
  by_cases h : ∃ s, source.Holds s
  · obtain ⟨s, hs⟩ := h
    rw [load_of_holds hs]
    obtain ⟨text, -, hread⟩ := hs
    exact .inr ⟨text, hread⟩
  · exact .inl (load_of_holds_none h)

/-- **Settings are those of a sound document, or the default.**  A text holds the document that
stands in the tree it spells, in which each number is the one in its place or its default,
whatever stands in the other places.  It holds settings when that document is sound, and then
these are its numbers in their units.  A text without a document is refused for the fault that
was met, an unsound document for all that is unsound about it and nothing else.  What a client
loads is sound whatever the source is: the settings that the source holds, and the default ones
if it holds none. -/
theorem documents_checked (text : String) (source : SettingsSource) :
    (∀ d, Document.ofText text = .ok d ↔
      ∃ tree, Spells text.toList (.value tree) ∧ d.Stands tree) ∧
    (∀ s, ofText text = .ok s ↔
      ∃ d, Document.ofText text = .ok d ∧ d.Sound ∧ s = d.settings) ∧
    (∀ d : Document, ∀ spot ∈ Spot.all,
      (spot.time d.settings).nanos = (spot.number d).toNat * spot.unit) ∧
    (∀ f, Document.ofText text = .error f → ofText text = .error (.unreadable f)) ∧
    (∀ d, Document.ofText text = .ok d → ¬ d.Sound → ∃ vs, ofText text = .error (.unsound vs) ∧
      vs.Nodup ∧ ∀ v, v ∈ vs ↔ d.Violates v) ∧
    (load source).Sound ∧
    (∀ s, source.Holds s → load source = s) ∧
    ((¬ ∃ s, source.Holds s) → load source = default) := by
  refine ⟨fun d => Document.ofText_eq_ok_iff, ?_, Document.nanos_settings, ?_, ?_,
    (accepted_load source).sound, fun s hs => load_of_holds hs, load_of_holds_none⟩
  · intro s
    rw [ofText_eq_ok_iff]
    simp only [Document.sound_iff]
  · intro f hf
    exact ofText_of_error hf
  · intro d hd hunsound
    refine ⟨d.violations, ofText_of_unsound hd hunsound, d.violations_nodup, fun v => ?_⟩
    exact Document.mem_violations_iff

/-- The least reading time that stands in a document is checked against the default most. -/
example :
    let text := "\x7b\"buzzBlock\": \x7b\"minMs\": 6000\x7d, \"timeouts\": \x7b\"vote\": 0\x7d\x7d"
    ofText text = .error (.unsound [.zero .vote, .crossed 6000 5000]) := by decide +kernel

end Settings

end QuizClient
