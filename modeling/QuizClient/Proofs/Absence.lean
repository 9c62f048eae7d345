import QuizClient.Proofs.Places

/-!
# Fields that are absent or `null`

A field of a record may be left out if it has a default, and may be `null` if it is one that
can say that there is nothing, or one that `null` leaves blank.  These are two different
permissions: most fields may be left out but not be `null`, and the players of a game may be
`null` but not be left out.  Where a field is absent or `null` and may be, the record has its
default and everything else stays; where it may not be, the whole snapshot is refused.

The rules are written out field by field, and hold for the records at every place in a
snapshot.

## Main definitions

* `Rule` — whether a field may be absent or `null`, and a record with its default.
* `Game.rules`, `Player.rules`, `Category.rules`, `Clue.rules`, `Answer.rules`, `Kind.rules` —
  the rules of each field.
* `Record.Clears` — a change that leaves one field of a record blank.
* `Rule.Governs` — a member of a shape follows a rule.

## Main results

* `Record.Clears.ofValue_erase`, `Record.Clears.ofValue_insert` — an object without a field, and
  with a value that leaves it blank.
* `Kind.exists_governed` — every rule is followed by the field of its keys.
* `absent_null_and_default` — **leaving out, `null` and default agree where the rules say so.**
-/

namespace QuizClient

open Json

/-! ### Rules -/

/-- What may be done with a field. -/
structure Rule (σ : Type) where
  /-- The key of the field. -/
  key : String
  /-- Another key that stands for it. -/
  alias? : Option String
  /-- Whether it may be left out. -/
  optional : Bool
  /-- Whether it may be `null`. -/
  nullable : Bool
  /-- The record with the default of the field. -/
  clear : σ → σ

namespace Rule

variable {σ : Type}

/-- A field with a default. -/
def plain (key : String) (clear : σ → σ) : Rule σ := ⟨key, none, true, false, clear⟩

/-- A field with a default, for which `null` stands too. -/
def orNull (key : String) (clear : σ → σ) : Rule σ := ⟨key, none, true, true, clear⟩

/-- The field as one that must come. -/
def needed (r : Rule σ) : Rule σ := { r with optional := false }

/-- The field with another key. -/
def orKey (r : Rule σ) (key : String) : Rule σ := { r with alias? := some key }

/-- The keys of the field. -/
def keys (r : Rule σ) : List String := r.key :: r.alias?.toList

/-- Members without the field. -/
def erase (r : Rule σ) (ms : List (String × Value)) : List (String × Value) :=
  ms.filter (·.1 ∉ r.keys)

end Rule

/-- What may be done with the fields of a player. -/
def Player.rules : List (Rule Player) := [
  (Rule.plain "id" fun p => { p with id := "" }).needed,
  .plain "name" fun p => { p with name := "" },
  .plain "score" fun p => { p with score := 0 },
  .plain "canPick" fun p => { p with mayPick := false },
  .plain "canBuzz" fun p => { p with mayBuzz := false },
  .plain "canAnswer" fun p => { p with mayAnswer := false },
  .plain "canWager" fun p => { p with mayWager := false },
  .plain "canVote" fun p => { p with mayVote := false },
  .plain "canDispute" fun p => { p with mayDispute := false },
  .plain "finalWager" fun p => { p with finalWager := 0 },
  .orNull "finalAnswer" fun p => { p with finalAnswer := "" },
  .plain "finalCorrect" fun p => { p with finalCorrect := false },
  .orNull "finalProtestors" fun p => { p with finalProtests := .empty },
  .plain "playAgain" fun p => { p with playAgain := false }]

/-- What may be done with the fields of an answer. -/
def Answer.rules : List (Rule Answer) := [
  .orNull "player" fun r => { r with player := .blank },
  .plain "answer" fun r => { r with text := "" },
  .plain "correct" fun r => { r with correct := false },
  .plain "hasDisputed" fun r => { r with disputed := false },
  .plain "overturned" fun r => { r with overturned := false }]

/-- What may be done with the fields of a clue. -/
def Clue.rules : List (Rule Clue) := [
  .plain "category" fun c => { c with category := "" },
  .plain "comments" fun c => { c with comments := "" },
  .plain "question" fun c => { c with text := "" },
  .plain "answer" fun c => { c with answer := "" },
  .plain "value" fun c => { c with value := 0 },
  .plain "canChoose" fun c => { c with available := false },
  .orNull "curAns" fun c => { c with current := none },
  .orNull "answers" fun c => { c with answers := [] },
  .orNull "curDisputed" fun c => { c with disputed := none }]

/-- What may be done with the fields of a category. -/
def Category.rules : List (Rule Category) := [
  .plain "title" fun c => { c with title := "" },
  .orNull "questions" fun c => { c with clues := [] }]

/-- What may be done with the fields of a game. -/
def Game.rules : List (Rule Game) := [
  .plain "name" fun g => { g with name := "" },
  (Rule.plain "state" fun g => { g with phase := .preGame }).needed,
  (Rule.plain "round" fun g => { g with round := .first }).needed,
  (Rule.orNull "players" fun g => { g with players := [] }).needed,
  .orNull "firstRound" fun g => { g with firstBoard := [] },
  .orNull "secondRound" fun g => { g with secondBoard := [] },
  .orNull "finalQuestion" fun g => { g with finalClue := .blank },
  .orNull "curQuestion" fun g => { g with clue := .blank },
  .plain "paused" fun g => { g with paused := false },
  .orNull "guessedWrong" fun g => { g with guessedWrong := [] },
  .orNull "pickTimeout" fun g => { g with pickTime := none },
  .orNull "buzzTimeout" fun g => { g with buzzTime := none },
  .orNull "answerTimeout" fun g => { g with answerTime := none },
  .orNull "wagerTimeout" fun g => { g with wagerTime := none },
  .orNull "finalAnswerTimeout" fun g => { g with finalAnswerTime := none },
  .orNull "finalWagerTimeout" fun g => { g with finalWagerTime := none },
  .orNull "voteTimeout" fun g => { g with voteTime := none },
  .plain "startBuzzCountdown" fun g => { g with startsBuzz := false },
  .plain "startFinalWagerCountdown" fun g => { g with startsFinalWager := false },
  .plain "startFinalAnswerCountdown" fun g => { g with startsFinalAnswer := false },
  (Rule.orNull "lastToAnswer" fun g => { g with lastToAnswer := none }).orKey "lastAnswerer",
  .orNull "lastAnswer" fun g => { g with lastAnswer := "" },
  .plain "ansCorrectness" fun g => { g with lastCorrect := false },
  .orNull "previousQuestion" fun g => { g with previousQuestion := "" },
  .orNull "previousAnswer" fun g => { g with previousAnswer := "" },
  .orNull "officialAnswer" fun g => { g with officialAnswer := "" },
  .plain "disconnected" fun g => { g with disconnected := false }]

/-- What may be done with the fields of a record. -/
def Kind.rules : (k : Kind) → List (Rule k.Rec)
  | game => Game.rules
  | player => Player.rules
  | category => Category.rules
  | clue => Clue.rules
  | answer => Answer.rules

/-! ### Records without a field -/

namespace Json.Record

/-- A change leaves one field of a record blank and the others alone. -/
structure Clears {ι σ : Type} (r : Record ι σ) (f : Field ι σ) (keys : List String)
    (clear : σ → σ) : Prop where
  /-- The field stands under its keys. -/
  found : ∀ key ∈ keys, r.fields.find? (·.answers key) = some f
  /-- Under other keys stand other fields. -/
  others : ∀ key ∉ keys, ∀ g, r.fields.find? (·.answers key) = some g → g.key ≠ f.key
  /-- The other fields are left alone. -/
  owns : r.Owns f clear
  /-- Whatever was stored in the field is gone. -/
  absorbs : ∀ x s t, f.store x s = .ok t → clear t = clear s
  /-- The blank record is blank there too. -/
  blank : clear r.blank = r.blank

namespace Clears

section

variable {ι σ : Type} {r : Record ι σ} {f : Field ι σ} {keys : List String} {clear : σ → σ}
  {skip : ι → Except Fault Unit}

/-- Without the members of a field the same fields come but for this one, which is blank. -/
theorem foldlM_erase (hc : r.Clears f keys clear) {ms : List (String × ι)} {p p' q : Progress σ}
    (hpq : p.Shadows f.key clear q) (hnew : f.key ∉ q.seen)
    (h : ms.foldlM (fun p e => r.member skip p e.1 e.2) p = .ok p') :
    ∃ q', (ms.filter (·.1 ∉ keys)).foldlM (fun p e => r.member skip p e.1 e.2) q = .ok q' ∧
      p'.Shadows f.key clear q' ∧ f.key ∉ q'.seen := by
  induction ms generalizing p q with
  | nil =>
    cases h
    exact ⟨q, rfl, hpq, hnew⟩
  | cons e ms ih =>
    obtain ⟨m, hm, h⟩ := exists_of_bind_eq_ok h
    by_cases hkey : e.1 ∈ keys
    · -- a member of the field is left out
      obtain ⟨-, t, ht, rfl⟩ := (member_of_find? (hc.found e.1 hkey)).mp hm
      have hvalue : q.value = clear t := hpq.value.trans (hc.absorbs e.2 p.value t ht).symm
      have hshadow : Progress.Shadows f.key clear ⟨t, f.key :: p.seen⟩ q := by
        refine ⟨hvalue, fun k hk => ?_⟩
        simp [hpq.seen k hk, hk]
      rw [List.filter_cons_of_neg (by simpa using hkey)]
      exact ih hshadow hnew h
    · obtain ⟨n, hn, hmn, hseen⟩ := member_shadow hc.owns (hc.others e.1 hkey) hpq hm
      obtain ⟨q', hq', hp', hnew'⟩ := ih hmn (mt hseen.mp hnew) h
      refine ⟨q', ?_, hp', hnew'⟩
      rw [List.filter_cons_of_pos (by simpa using hkey), List.foldlM_cons, hn]
      exact hq'

end

section

variable {σ : Type} {r : Record Value σ} {f : Field Value σ} {keys : List String}
  {clear : σ → σ} {ms : List (String × Value)} {a : σ}

theorem exists_progress (hc : r.Clears f keys clear) (h : r.ofValue (.object ms) = .ok a) :
    ∃ p q, r.finish p = .ok a ∧ p.Shadows f.key clear q ∧ f.key ∉ q.seen ∧
      (ms.filter (·.1 ∉ keys)).foldlM (fun p e => r.member (fun _ => .ok ()) p e.1 e.2) r.start
        = .ok q := by
  obtain ⟨p, hp, hfinish⟩ := exists_of_bind_eq_ok h
  have hstart : r.start.Shadows f.key clear r.start := ⟨hc.blank.symm, fun _ _ => .rfl⟩
  obtain ⟨q, hq, hshadow, hnew⟩ := hc.foldlM_erase hstart List.not_mem_nil hp
  exact ⟨p, q, hfinish, hshadow, hnew, hq⟩

/-- **An object without a field** is read with the field blank, or misses it. -/
theorem ofValue_erase (hc : r.Clears f keys clear) (hf : f ∈ r.fields)
    (hdistinct : ∀ g ∈ r.fields, g.key = f.key → g = f) (h : r.ofValue (.object ms) = .ok a) :
    r.ofValue (.object (ms.filter (·.1 ∉ keys)))
      = if f.required then .error (.missing f.key) else .ok (clear a) := by
  obtain ⟨p, q, hfinish, hshadow, hnew, hq⟩ := hc.exists_progress h
  have hread : r.ofValue (.object (ms.filter (·.1 ∉ keys))) = r.finish q :=
    congrArg (· >>= r.finish) hq
  rw [hread]
  split
  · next hrequired =>
    -- every other field that must come has come
    obtain ⟨-, hseen⟩ := seen_of_finish hfinish
    unfold finish
    cases hmissing : r.fields.find? fun g => g.required && !q.seen.contains g.key with
    | none =>
      have hall := List.find?_eq_none.mp hmissing f hf
      simp [hrequired, hnew] at hall
    | some g =>
      have hg := List.find?_some hmissing
      simp only [Bool.and_eq_true, Bool.not_eq_true', List.contains_eq_mem,
        decide_eq_false_iff_not] at hg
      have hkey : g.key = f.key := by
        by_contra hne
        have hcame := hseen g (List.mem_of_find?_eq_some hmissing) hg.1
        exact hg.2 ((hshadow.seen g.key hne).mpr hcame)
      exact congrArg (fun key => Except.error (Fault.missing key)) hkey
  · next hoptional =>
    refine finish_shadow hshadow (fun g hg hkey hrequired => ?_) hfinish
    exact absurd (hdistinct g hg hkey ▸ hrequired) hoptional

/-- What stands in front of and behind a place among the other members is read. -/
theorem exists_split (hc : r.Clears f keys clear) (h : r.ofValue (.object ms) = .ok a)
    {before after : List (String × Value)} (hms : before ++ after = ms.filter (·.1 ∉ keys)) :
    ∃ p q, before.foldlM (fun p e => r.member (fun _ => .ok ()) p e.1 e.2) r.start = .ok p ∧
      f.key ∉ p.seen ∧
      after.foldlM (fun p e => r.member (fun _ => .ok ()) p e.1 e.2)
        ⟨clear p.value, f.key :: p.seen⟩ = .ok q ∧
      r.finish q = .ok (clear (clear a)) := by
  obtain ⟨p, q, hfinish, hshadow, hnew, hq⟩ := hc.exists_progress h
  rw [← hms, List.foldlM_append] at hq
  obtain ⟨q₁, hq₁, hq⟩ := exists_of_bind_eq_ok hq
  have hothers : ∀ e ∈ after, ∀ g, r.fields.find? (·.answers e.1) = some g → g.key ≠ f.key := by
    intro e he
    have hmem : e ∈ ms.filter (·.1 ∉ keys) := hms ▸ List.mem_append_right before he
    exact hc.others e.1 (by simpa using (List.mem_filter.mp hmem).2)
  have hfresh : f.key ∉ q₁.seen := mt (foldlM_seen hothers hq).mpr hnew
  have hcleared : q₁.Shadows f.key clear ⟨clear q₁.value, f.key :: q₁.seen⟩ :=
    ⟨rfl, fun k hk => by simp [hk]⟩
  obtain ⟨q₂, hq₂, hsame, hcame⟩ := foldlM_shadow hc.owns hothers hcleared hq
  have hboth : p.Shadows f.key (fun s => clear (clear s)) q₂ := by
    refine ⟨?_, fun k hk => (hsame.seen k hk).trans (hshadow.seen k hk)⟩
    rw [hsame.value, hshadow.value]
  have hdone := finish_shadow hboth (fun _ _ _ _ => hcame.mpr List.mem_cons_self) hfinish
  exact ⟨q₁, q₂, hq₁, hfresh, hq₂, hdone⟩

/-- **An object with a value that leaves the field blank**, in any place among the others. -/
theorem ofValue_insert (hc : r.Clears f keys clear) (h : r.ofValue (.object ms) = .ok a)
    {before after : List (String × Value)} (hms : before ++ after = ms.filter (·.1 ∉ keys))
    {key : String} (hkey : key ∈ keys) {x : Value} (hx : ∀ s, f.store x s = .ok (clear s)) :
    r.ofValue (.object (before ++ (key, x) :: after)) = .ok (clear a) := by
  obtain ⟨p, q, hp, hfresh, hq, hfinish⟩ := hc.exists_split h hms
  have hmember : r.member (fun _ => .ok ()) p key x = .ok ⟨clear p.value, f.key :: p.seen⟩ :=
    (member_of_find? (hc.found key hkey)).mpr ⟨hfresh, _, hx _, rfl⟩
  have hidem : clear (clear a) = clear a := hc.absorbs x a _ (hx a)
  rw [hidem] at hfinish
  rw [ofValue_append, hp]
  change (r.member _ p key x >>= _) = _
  rw [hmember]
  exact (congrArg (· >>= r.finish) hq).trans hfinish

/-- **An object with a value that the field refuses** is refused. -/
theorem ofValue_insert_error (hc : r.Clears f keys clear) (h : r.ofValue (.object ms) = .ok a)
    {before after : List (String × Value)} (hms : before ++ after = ms.filter (·.1 ∉ keys))
    {key : String} (hkey : key ∈ keys) {x : Value} {e : Fault}
    (hx : ∀ s, f.store x s = .error e) :
    r.ofValue (.object (before ++ (key, x) :: after)) = .error e := by
  obtain ⟨p, -, hp, hfresh, -⟩ := hc.exists_split h hms
  have hmember : r.member (fun _ => .ok ()) p key x = .error e := by
    have hunseen : p.seen.contains f.key = false := by simpa using hfresh
    rw [member, hc.found key hkey]
    simp only [hunseen, hx]
    rfl
  rw [ofValue_append, hp]
  change (r.member _ p key x >>= _) = _
  rw [hmember]
  rfl

end

end Clears

end Json.Record

/-! ### The rules of the fields -/

/-- A member of a shape follows a rule. -/
structure Rule.Governs {σ : Type} (s : Shape σ) (rule : Rule σ) (m : Member σ) : Prop where
  /-- The key is its key. -/
  key : rule.key = m.key
  /-- The other key is its other key. -/
  alias? : rule.alias? = m.alias?
  /-- It must come unless it may be left out. -/
  required : m.required = !rule.optional
  /-- If `null` may stand for it, this is the default. -/
  null : rule.nullable = true → ∀ a, m.store .null a = .ok (rule.clear a)
  /-- Otherwise `null` is refused. -/
  refused : rule.nullable = false → ∃ e, ∀ a, m.store .null a = .error e
  /-- With the default, nothing is left of what was stored. -/
  absorbs : ∀ x a b, m.store x a = .ok b → rule.clear b = rule.clear a
  /-- In the blank record it has its default. -/
  blank : rule.clear s.blank = s.blank

namespace Rule.Governs

variable {α σ : Type} {s : Shape σ} {c : Codec α} {key : String} {get : σ → α} {set : α → σ → σ}
  {clear : σ → σ} {rule : Rule σ} {m : Member σ}

theorem absorbs_of_set (h : ∀ a t, clear (set a t) = clear t) :
    ∀ x a b, (c.member key get set).store x a = .ok b → clear b = clear a := by
  intro x a b hb
  obtain ⟨y, -, rfl⟩ := exists_of_map_eq_ok hb
  exact h y a

theorem plain {e : Fault} (hnull : c.read .null = .error e)
    (hset : ∀ a t, clear (set a t) = clear t) (hblank : clear s.blank = s.blank) :
    (Rule.plain key clear).Governs s (c.member key get set) where
  key := rfl
  alias? := rfl
  required := rfl
  null := nofun
  refused _ := ⟨e, fun a => congrArg (fun r => (set · a) <$> r) hnull⟩
  absorbs := absorbs_of_set hset
  blank := hblank

theorem orNull {a₀ : α} (hnull : c.read .null = .ok a₀) (hclear : ∀ t, set a₀ t = clear t)
    (hset : ∀ a t, clear (set a t) = clear t) (hblank : clear s.blank = s.blank) :
    (Rule.orNull key clear).Governs s (c.member key get set) where
  key := rfl
  alias? := rfl
  required := rfl
  null _ a := (congrArg (fun r => (set · a) <$> r) hnull).trans (congrArg Except.ok (hclear a))
  refused := nofun
  absorbs := absorbs_of_set hset
  blank := hblank

theorem needed (h : rule.Governs s m) : rule.needed.Governs s m.needed :=
  ⟨h.key, h.alias?, rfl, h.null, h.refused, h.absorbs, h.blank⟩

theorem orKey {other : String} (h : rule.Governs s m) :
    (rule.orKey other).Governs s (m.orKey other) :=
  ⟨h.key, rfl, h.required, h.null, h.refused, h.absorbs, h.blank⟩

theorem keys (h : rule.Governs s m) : rule.keys = m.key :: m.alias?.toList := by
  rw [Rule.keys, h.key, h.alias?]

end Rule.Governs

/-- **Every field follows its rule.** -/
theorem Kind.rules_govern (k : Kind) :
    List.Forall₂ (Rule.Governs k.shape) k.rules k.shape.members := by
  cases k
  all_goals
    repeat' first
      | exact .nil
      | refine .cons (.plain rfl (fun _ _ => rfl) rfl) ?_
      | refine .cons (.orNull rfl (fun _ => rfl) (fun _ _ => rfl) rfl) ?_
      | refine .cons (.needed (.plain rfl (fun _ _ => rfl) rfl)) ?_
      | refine .cons (.needed (.orNull rfl (fun _ => rfl) (fun _ _ => rfl) rfl)) ?_
      | refine .cons (.orKey (.orNull rfl (fun _ => rfl) (fun _ _ => rfl) rfl)) ?_

/-- Setting a field to its default is not noticed by another field: each sets a field of its
own. -/
theorem Kind.rules_spare (k : Kind) : k.rules.Forall fun rule => k.shape.members.Forall fun m =>
    m.key = rule.key ∨ m.Spares rule.clear := by
  cases k
  all_goals
    simp only [Kind.shape, Kind.rules, Player.shape, Player.rules, Answer.shape, Answer.rules,
      Clue.shape, Clue.rules, Category.shape, Category.rules, Game.shape, Game.rules, List.Forall]
    repeat' first
      | refine And.intro ?_ ?_
      | exact .inr (Field.spares_of_store rfl fun _ _ => rfl)
      | exact .inl rfl

/-- The field that follows a rule is left blank by it, in its record. -/
theorem Rule.Governs.clears {k : Kind} {rule : Rule k.Rec} {m : Member k.Rec}
    (h : rule.Governs k.shape m) (hm : m ∈ k.shape.members) (hrule : rule ∈ k.rules) :
    k.shape.record.Clears m.toField rule.keys rule.clear where
  found key hkey := by
    refine k.unambiguous.find? hm ?_
    rw [h.keys] at hkey
    exact Field.answers_of_mem_keys hkey
  others key hkey g hg heq := by
    have hsame : g = m.toField := k.unambiguous.eq_of_key (List.mem_of_find?_eq_some hg)
      (List.mem_map_of_mem hm) heq
    have hanswers := List.find?_some hg
    rw [hsame] at hanswers
    exact hkey (h.keys ▸ Field.mem_keys_of_answers hanswers)
  owns g hg hne := by
    obtain ⟨g', hg', rfl⟩ := List.mem_map.mp hg
    have hspare := List.forall_iff_forall_mem.mp
      (List.forall_iff_forall_mem.mp k.rules_spare rule hrule) g' hg'
    exact hspare.resolve_left fun hkey => hne (hkey.trans h.key)
  absorbs := h.absorbs
  blank := h.blank

/-- Every rule is followed by a field of the shape. -/
theorem Kind.exists_governed {k : Kind} {rule : Rule k.Rec} (hrule : rule ∈ k.rules) :
    ∃ m ∈ k.shape.members, rule.Governs k.shape m := by
  obtain ⟨i, hi, rfl⟩ := List.mem_iff_getElem.mp hrule
  have hlength := k.rules_govern.length_eq
  exact ⟨_, List.getElem_mem (hlength ▸ hi), k.rules_govern.get hi (hlength ▸ hi)⟩

/-! ### Snapshots -/

/-- **Leaving out, `null` and default agree where the rules say so**, for every field of every
record in a snapshot that is an object there.

Without the field the snapshot has its default there and is the same everywhere else, if the
field may be left out; and it is refused if it may not.  With `null` for the field, under any
of its keys and at any place among the other members, the snapshot has its default there and
is the same everywhere else, if the field may be `null`; and it is refused if it may not. -/
theorem absent_null_and_default {k t : Kind} (place : Place k t) (ms : List (String × Value))
    (a : k.Rec) (h : k.codec.read (place.plug (.object ms)) = .ok a) :
    ∀ rule ∈ t.rules,
      (rule.optional = true →
        k.codec.read (place.plug (.object (rule.erase ms))) = .ok (place.modify rule.clear a)) ∧
      (rule.optional = false →
        k.codec.read (place.plug (.object (rule.erase ms))) = .error (.missing rule.key)) ∧
      ∀ before after key, before ++ after = rule.erase ms → key ∈ rule.keys →
        (rule.nullable = true →
          k.codec.read (place.plug (.object (before ++ (key, .null) :: after)))
            = .ok (place.modify rule.clear a)) ∧
        (rule.nullable = false →
          ∃ e, k.codec.read (place.plug (.object (before ++ (key, .null) :: after)))
            = .error e) := by
  intro rule hrule
  obtain ⟨m, hm, hgoverns⟩ := Kind.exists_governed hrule
  have hclears := hgoverns.clears hm hrule
  have hobject : ∀ ms, Value.object ms ≠ .null := nofun
  obtain ⟨b, hb, hinner⟩ := place.reaches.reach _ a (hobject ms) h
  have hmem : m.toField ∈ t.shape.record.fields := List.mem_map_of_mem hm
  have hdistinct : ∀ g ∈ t.shape.record.fields, g.key = m.key → g = m.toField :=
    fun g hg heq => t.unambiguous.eq_of_key hg hmem heq
  have herase : t.codec.read (.object (rule.erase ms))
      = if m.required then .error (.missing m.key) else .ok (rule.clear b) :=
    hclears.ofValue_erase hmem hdistinct hb
  refine ⟨fun hoptional => ?_, fun hneeded => ?_, fun before after key hms hkey =>
    ⟨fun hnull => ?_, fun hrefused => ?_⟩⟩
  · rw [hgoverns.required, hoptional] at herase
    exact (hinner _ (hobject _)).1 rule.clear herase
  · rw [hgoverns.required, hneeded, ← hgoverns.key] at herase
    exact (hinner _ (hobject _)).2 _ herase
  · exact (hinner _ (hobject _)).1 rule.clear
      (hclears.ofValue_insert hb hms hkey (hgoverns.null hnull))
  · obtain ⟨e, he⟩ := hgoverns.refused hrefused
    exact ⟨e, (hinner _ (hobject _)).2 e (hclears.ofValue_insert_error hb hms hkey he)⟩

/-- The player who answered last, in a game: without a score, without an identifier, with
`null` for a final answer that was not there, and with `null` for the score. -/
theorem last_player_absent_or_null :
    let place : Place .game .player := .inside .lastToAnswer
      (.object [("round", .ofInt 0), ("players", .null)] [("state", .ofInt 2)] "lastAnswerer"
        (by decide)) .alone .here
    let ms : List (String × Value) := [("id", .string "a"), ("score", .ofInt 5)]
    let told : Player → Game := fun p => { Game.blank with phase := .pick, lastToAnswer := some p }
    Game.codec.read (place.plug (.object ms))
      = .ok (told { Player.blank with id := "a", score := 5 }) ∧
    Game.codec.read (place.plug (.object [("id", .string "a")]))
      = .ok (told { Player.blank with id := "a" }) ∧
    Game.codec.read (place.plug (.object [("score", .ofInt 5)])) = .error (.missing "id") ∧
    Game.codec.read (place.plug (.object (("id", .string "a") :: ("finalAnswer", .null) ::
        [("score", .ofInt 5)]))) = .ok (told { Player.blank with id := "a", score := 5 }) ∧
    ∃ e, Game.codec.read (place.plug (.object (("id", .string "a") :: ("score", .null) :: [])))
      = .error e := by
  intro place ms told
  have hread : Game.codec.read (place.plug (.object ms))
      = .ok (told { Player.blank with id := "a", score := 5 }) := rfl
  have hrules := absent_null_and_default place ms _ hread
  have hid := hrules (Player.rules[0]) (List.getElem_mem _)
  have hscore := hrules (Player.rules[2]) (List.getElem_mem _)
  have hanswer := hrules (Player.rules[10]) (List.getElem_mem _)
  refine ⟨hread, hscore.1 rfl, hid.2.1 rfl, ?_, ?_⟩
  · exact (hanswer.2.2 [("id", .string "a")] [("score", .ofInt 5)] "finalAnswer" rfl
      (by decide)).1 rfl
  · exact (hscore.2.2 [("id", .string "a")] [] "score" rfl (by decide)).2 rfl

end QuizClient
