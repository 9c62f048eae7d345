import QuizClient.Proofs.Wire

/-!
# What an envelope tells

Five checks decide what a frame tells, and the first that applies wins: whether it is an
envelope at all, its code, the heartbeat, whether it may come without snapshots, and the
snapshots themselves, the game first.  Every envelope falls under exactly one of the cases,
whatever stands in the parts that its case does not look at.

## Main definitions

* `Draft.part` — what stands in the place of a field of a record.
* `Part` — what a part that may be absent reads as.
* `Record.Component` — a field that alone is read into a component of a record.
* `Envelope.Holds` — the parts of an envelope are those of a text.

## Main results

* `Component.ofDraft` — a component of a record is read from the place of its field.
* `holds_of_ofText` — an envelope has the parts of its text.
* `classified` — **what an envelope tells, for every text.**
-/

namespace QuizClient

namespace Json

/-! ### The parts of a record -/

/-- What stands in the place of a field: of an object the member under its key, of an array
the item in its position. -/
def Draft.part (position : Nat) (key : String) : Draft → Option Draft
  | .object members => members.lookup (some key)
  | .array items => items[position]?
  | _ => none

/-- What a part that may be absent reads as. -/
def Part {α : Type} (read : Draft → Except Fault α) (blank a : α) : Option Draft → Prop
  | none => a = blank
  | some d => read d = .ok a

namespace Record

/-- How a record reads one member of a draft. -/
def step {σ : Type} (r : Record Draft σ) (p : Progress σ) (e : Option String × Draft) :
    Except Fault (Progress σ) :=
  match e.1 with
  | some key => r.member Draft.skip p key e.2
  | none => .error .malformed

/-- A field that is read into a component of a record, which no other field touches. -/
structure Component {σ α : Type} (r : Record Draft σ) (f : Field Draft σ)
    (read : Draft → Except Fault α) (get : σ → α) : Prop where
  /-- No field has a second key. -/
  plain : ∀ g ∈ r.fields, g.alias? = none
  /-- The field stands for its key. -/
  answers : r.fields.find? (·.answers f.key) = some f
  /-- No two fields have one key. -/
  distinct : (r.fields.map (·.key)).Nodup
  /-- The field is read into the component. -/
  store : ∀ d s t, f.store d s = .ok t → read d = .ok (get t)
  /-- The other fields leave it alone. -/
  others : ∀ g ∈ r.fields, g.key ≠ f.key → ∀ d s t, g.store d s = .ok t → get t = get s

namespace Component

variable {σ α : Type} {r : Record Draft σ} {f : Field Draft σ} {read : Draft → Except Fault α}
  {get : σ → α}

/-- A member under the key of the field, which has not come before, is read into the
component. -/
theorem member_same (hc : r.Component f read get) {p q : Progress σ} {d : Draft}
    (h : r.member Draft.skip p f.key d = .ok q) :
    f.key ∉ p.seen ∧ read d = .ok (get q.value) ∧ f.key ∈ q.seen := by
  rw [Record.member, hc.answers] at h
  dsimp only at h
  split at h
  · cases h
  · next hfresh =>
    obtain ⟨t, ht, rfl⟩ := exists_of_map_eq_ok h
    exact ⟨by simpa using hfresh, hc.store d p.value t ht, List.mem_cons_self ..⟩

/-- A member under another key leaves the component alone. -/
theorem member_other (hc : r.Component f read get) {p q : Progress σ} {key : String} {d : Draft}
    (hkey : key ≠ f.key) (h : r.member Draft.skip p key d = .ok q) :
    get q.value = get p.value ∧ (f.key ∈ q.seen ↔ f.key ∈ p.seen) := by
  unfold Record.member at h
  split at h
  · obtain ⟨_, -, rfl⟩ := exists_of_map_eq_ok h
    exact ⟨rfl, .rfl⟩
  · next g hg =>
    have hmem := List.mem_of_find?_eq_some hg
    have hanswers := List.find?_some hg
    have hne : g.key ≠ f.key := by
      simp only [Field.answers, hc.plain g hmem, Bool.or_eq_true, beq_iff_eq] at hanswers
      rcases hanswers with heq | hnone
      · exact heq ▸ hkey
      · cases hnone
    split at h
    · cases h
    · obtain ⟨t, ht, rfl⟩ := exists_of_map_eq_ok h
      exact ⟨hc.others g hmem hne d p.value t ht, by simp [hne.symm]⟩

/-- Once the field has come, the component stays as it is. -/
theorem members_of_seen (hc : r.Component f read get) {ms : List (Option String × Draft)}
    {p q : Progress σ} (h : ms.foldlM r.step p = .ok q) (hseen : f.key ∈ p.seen) :
    get q.value = get p.value := by
  induction ms generalizing p with
  | nil =>
    cases h
    rfl
  | cons e ms ih =>
    obtain ⟨key, d⟩ := e
    obtain ⟨m, hm, hrest⟩ := exists_of_bind_eq_ok h
    cases key with
    | none => cases hm
    | some key =>
      by_cases hkey : key = f.key
      · subst hkey
        exact absurd hseen (hc.member_same hm).1
      · obtain ⟨hsame, hseen'⟩ := hc.member_other hkey hm
        exact (ih hrest (hseen'.mpr hseen)).trans hsame

/-- **The members of an object make the component what the member of its field reads as**, or
leave it as it was when there is none. -/
theorem members (hc : r.Component f read get) {ms : List (Option String × Draft)}
    {p q : Progress σ} (h : ms.foldlM r.step p = .ok q) (hnew : f.key ∉ p.seen) :
    Part read (get p.value) (get q.value) (ms.lookup (some f.key)) ∧
      (f.key ∈ q.seen → ms.lookup (some f.key) ≠ none) := by
  induction ms generalizing p with
  | nil =>
    cases h
    exact ⟨rfl, fun hseen => absurd hseen hnew⟩
  | cons e ms ih =>
    obtain ⟨key, d⟩ := e
    obtain ⟨m, hm, hrest⟩ := exists_of_bind_eq_ok h
    cases key with
    | none => cases hm
    | some key =>
      by_cases hkey : key = f.key
      · subst hkey
        obtain ⟨-, hread, hseen⟩ := hc.member_same hm
        rw [List.lookup_cons_self, Part, hc.members_of_seen hrest hseen]
        exact ⟨hread, fun _ => Option.some_ne_none d⟩
      · obtain ⟨hsame, hseen⟩ := hc.member_other hkey hm
        have hskip : (some f.key == some key) = false := by simpa using Ne.symm hkey
        rw [List.lookup_cons, hskip, ← hsame]
        exact ih hrest (mt hseen.mp hnew)

/-- Fields of other keys leave the component alone in an array too. -/
theorem items_others {fs : List (Field Draft σ)} (hkeys : ∀ g ∈ fs, g.key ≠ f.key)
    (hothers : ∀ g ∈ fs, g.key ≠ f.key → ∀ d s t, g.store d s = .ok t → get t = get s)
    {excess : Fault} {i : Nat} {ds : List Draft} {s t : σ}
    (h : r.items excess fs i ds s = .ok t) : get t = get s := by
  have hkeeps : ∀ g ∈ fs, ∀ d s' t', get s' = get s → g.store d s' = .ok t' → get t' = get s :=
    fun g hg d s' t' hs ht => (hothers g hg (hkeys g hg) d s' t' ht).trans hs
  exact Keeps.items hkeeps rfl h

/-- **The items of an array make the component what the item of its field reads as**, or leave
it as it was when there is none. -/
theorem items {fs : List (Field Draft σ)} (hdistinct : (fs.map (·.key)).Nodup)
    (hstore : ∀ d s t, f.store d s = .ok t → read d = .ok (get t))
    (hothers : ∀ g ∈ fs, g.key ≠ f.key → ∀ d s t, g.store d s = .ok t → get t = get s)
    {excess : Fault} {position i : Nat} (hf : fs[position]? = some f) {ds : List Draft} {s t : σ}
    (h : r.items excess fs i ds s = .ok t) :
    Part read (get s) (get t) ds[position]? ∧ (f.required = true → ds[position]? ≠ none) := by
  induction fs generalizing position i ds s with
  | nil => cases hf
  | cons g fs ih =>
    obtain ⟨hnew, hdistinct⟩ := List.nodup_cons.mp hdistinct
    obtain ⟨hother, hlater⟩ := List.forall_mem_cons.mp hothers
    have hkey : ∀ g' ∈ fs, g.key ≠ g'.key := fun g' hg' heq =>
      hnew (List.mem_map.mpr ⟨g', hg', heq.symm⟩)
    cases position with
    | zero =>
      cases hf
      -- the fields behind this one have other keys
      have hkeys : ∀ g' ∈ fs, g'.key ≠ f.key := fun g' hg' => (hkey g' hg').symm
      cases ds with
      | nil =>
        unfold Record.items at h
        split at h
        · cases h
        · next hrequired => exact ⟨items_others hkeys hlater h, fun hr => absurd hr hrequired⟩
      | cons d ds =>
        obtain ⟨s', hs', hrest⟩ := exists_of_bind_eq_ok h
        have hsame := items_others hkeys hlater hrest
        refine ⟨?_, fun _ => Option.some_ne_none d⟩
        show read d = .ok (get t)
        rw [hsame]
        exact hstore d s s' hs'
    | succ position =>
      have hne : g.key ≠ f.key := hkey f (List.mem_of_getElem? hf)
      cases ds with
      | nil =>
        unfold Record.items at h
        split at h
        · cases h
        · exact ih hdistinct hlater hf h
      | cons d ds =>
        obtain ⟨s', hs', hrest⟩ := exists_of_bind_eq_ok h
        rw [← hother hne d s s' hs']
        exact ih hdistinct hlater hf hrest

/-- **A component of a record is read from the place of its field**, and is blank when nothing
stands there, which is so for no field that must come. -/
theorem ofDraft (hc : r.Component f read get) {position : Nat}
    (hf : r.fields[position]? = some f) {d : Draft} {a : σ} (h : r.ofDraft d = .ok a) :
    Part read (get r.blank) (get a) (d.part position f.key) ∧
      (f.required = true → d.part position f.key ≠ none) := by
  cases d with
  | object ms =>
    obtain ⟨p, hp, hfinish⟩ := exists_of_bind_eq_ok h
    obtain ⟨rfl, hseen⟩ := seen_of_finish hfinish
    obtain ⟨hpart, hcame⟩ := hc.members hp List.not_mem_nil
    exact ⟨hpart, fun hr => hcame (hseen f (List.mem_of_getElem? hf) hr)⟩
  | array ds => exact items hc.distinct hc.store hc.others hf h
  | _ =>
    obtain ⟨found, -, hwrong⟩ := exists_of_bind_eq_ok h
    cases hwrong

end Component

/-- What reading a record makes of a component that one of its fields is read into. -/
theorem part_of_ofDraft {σ α : Type} {r : Record Draft σ} (hplain : ∀ g ∈ r.fields, g.alias? = none)
    (hdistinct : (r.fields.map (·.key)).Nodup) {f : Field Draft σ} {read : Draft → Except Fault α}
    {set : α → σ → σ} {get : σ → α} {d : Draft} {a : σ} (h : r.ofDraft d = .ok a) (position : Nat)
    (hf : r.fields[position]? = some f) (hanswers : r.fields.find? (·.answers f.key) = some f)
    (hstore : ∀ d s, f.store d s = (set · s) <$> read d) (hset : ∀ a s, get (set a s) = a)
    (hothers : ∀ g ∈ r.fields, g.key ≠ f.key → ∀ d s t, g.store d s = .ok t → get t = get s) :
    Part read (get r.blank) (get a) (d.part position f.key) ∧
      (f.required = true → d.part position f.key ≠ none) := by
  have hcomponent : r.Component f read get :=
    { plain := hplain
      answers := hanswers
      distinct := hdistinct
      store := fun d s t ht => by
        rw [hstore] at ht
        obtain ⟨a, ha, rfl⟩ := exists_of_map_eq_ok ht
        rw [hset, ha]
      others := hothers }
  exact hcomponent.ofDraft hf h

end Record

end Json

namespace Envelope

open Json

/-! ### The parts of an envelope -/

/-- The parts of an envelope are those of a text. -/
structure Holds (e : Envelope) (d : Draft) : Prop where
  /-- The code stands there. -/
  code : ∃ c, d.part 0 "code" = some c ∧ c.found >>= Found.toSigned? = .ok e.code
  /-- The message may be absent, and is empty then. -/
  message : Part (fun m => m.found >>= Found.toString?) "" e.message (d.part 1 "message")
  /-- The game may be absent. -/
  game : Part kept none e.game (d.part 2 "game")
  /-- The player may be absent. -/
  player : Part kept none e.player (d.part 3 "curPlayer")

/-- Only the word null is kept as it. -/
theorem keep?_eq_null_iff (depth : Nat) {d : Draft} : d.keep? depth = some .null ↔ d = .null := by
  refine ⟨fun h => ?_, fun h => by rw [h]; rfl⟩
  cases d with
  | null => rfl
  | bool b => cases h
  | number n =>
    rw [Draft.keep?] at h
    split at h <;> cases h
  | string content => cases content <;> cases h
  | array items =>
    cases depth with
    | zero => cases h
    | succ depth => cases hk : Draft.keepItems? depth items <;> simp [Draft.keep?, hk] at h
  | object members =>
    cases depth with
    | zero => cases h
    | succ depth => cases hk : Draft.keepMembers? depth members <;> simp [Draft.keep?, hk] at h
  | broken => cases h

/-- A part that is kept counts as absent when it is the word null, and only then. -/
theorem kept_eq_none_iff {d : Draft} {v : Option Value} (h : kept d = .ok v) :
    v = none ↔ d = .null := by
  rw [← keep?_eq_null_iff snapshotDepth]
  unfold kept at h
  split at h
  · cases h
  · next hnull =>
    cases h
    exact iff_of_true rfl hnull
  · next w hne hw =>
    cases h
    refine iff_of_false nofun fun hnull => ?_
    rw [hw] at hnull
    exact hne (Option.some.inj hnull)

/-- A field of an envelope touches the component under its own key alone. -/
theorem store_frame {f : Field Draft Envelope} (hf : f ∈ record.fields) {d : Draft}
    {e e' : Envelope} (h : f.store d e = .ok e') :
    (f.key ≠ "code" → e'.code = e.code) ∧ (f.key ≠ "message" → e'.message = e.message) ∧
      (f.key ≠ "game" → e'.game = e.game) ∧ (f.key ≠ "curPlayer" → e'.player = e.player) := by
  simp only [record, List.mem_cons, List.not_mem_nil, or_false] at hf
  rcases hf with rfl | rfl | rfl | rfl
  all_goals
    obtain ⟨a, -, rfl⟩ := exists_of_map_eq_ok h
    simp [Draft.field]

/-- **An envelope has the parts of its text.** -/
theorem holds_of_ofText {s : String} {e : Envelope} (h : Envelope.ofText s = .ok e) :
    e.Holds (Draft.ofText s).1 := by
  have hread : record.ofDraft (Draft.ofText s).1 = .ok e := by
    obtain ⟨a, ha, hend⟩ := exists_of_bind_eq_ok h
    split at hend
    · cases hend
      exact ha
    · cases hend
  have hplain : ∀ g ∈ record.fields, g.alias? = none := by decide
  have hdistinct : (record.fields.map (·.key)).Nodup := by decide
  obtain ⟨hcode, hcame⟩ := Record.part_of_ofDraft hplain hdistinct hread 0 rfl rfl
    (fun _ _ => rfl) (fun _ _ => rfl) fun g hg hne d s t ht => (store_frame hg ht).1 hne
  obtain ⟨hmessage, -⟩ := Record.part_of_ofDraft hplain hdistinct hread 1 rfl rfl
    (fun _ _ => rfl) (fun _ _ => rfl) fun g hg hne d s t ht => (store_frame hg ht).2.1 hne
  obtain ⟨hgame, -⟩ := Record.part_of_ofDraft hplain hdistinct hread 2 rfl rfl
    (fun _ _ => rfl) (fun _ _ => rfl) fun g hg hne d s t ht => (store_frame hg ht).2.2.1 hne
  obtain ⟨hplayer, -⟩ := Record.part_of_ofDraft hplain hdistinct hread 3 rfl rfl
    (fun _ _ => rfl) (fun _ _ => rfl) fun g hg hne d s t ht => (store_frame hg ht).2.2.2 hne
  refine ⟨?_, hmessage, hgame, hplayer⟩
  have hthere : (Draft.ofText s).1.part 0 "code" ≠ none := hcame rfl
  have hcode : Part (fun c => c.found >>= Found.toSigned?) 0 e.code
      ((Draft.ofText s).1.part 0 "code") := hcode
  obtain ⟨c, hc⟩ := Option.ne_none_iff_exists'.mp hthere
  rw [hc] at hcode
  exact ⟨c, hc, hcode⟩

/-- A part of an envelope counts as absent when nothing stands in its place, or the word
null. -/
theorem absent_iff {part : Option Draft} {v : Option Value} (h : Part kept none v part) :
    v = none ↔ part = none ∨ part = some .null := by
  cases part with
  | none => exact iff_of_true h (.inl rfl)
  | some d =>
    rw [kept_eq_none_iff h]
    simp

end Envelope

/-! ### What a code means -/

namespace Status

variable {code : Int64}

theorem ofCode_of_neg (h : code < 0) : ofCode code = .error (.unknownCode code) := if_pos h

/-- Codes from 4400 on are failures, of a kind for each of three ranges. -/
theorem ofCode_of_failure (h : 4400 ≤ code) :
    ∃ kind, ofCode code = .ok (.failed kind) ∧ (kind = .unauthorized ↔ code = 4401) ∧
      (kind = .serverError ↔ 4500 ≤ code) := by
  have hnonneg : ¬ code < 0 := Int64.not_lt.mpr (Int64.le_trans (by decide) h)
  have h200 : code ≠ 200 := by
    rintro rfl
    exact absurd h (by decide)
  have hinfo : ¬ (4100 ≤ code ∧ code ≤ 4399) := fun hle =>
    absurd (Int64.le_trans h hle.2) (by decide)
  unfold ofCode
  rw [if_neg hnonneg, if_neg h200, if_neg hinfo, if_neg (Int64.not_lt.mpr h)]
  by_cases hrefused : code = 4401
  · subst hrefused
    exact ⟨.unauthorized, rfl, by decide, by decide⟩
  rw [if_neg hrefused]
  by_cases hlow : code < 4500
  · exact ⟨.rejected, if_pos hlow, iff_of_false nofun hrefused,
      iff_of_false nofun (Int64.not_le.mpr hlow)⟩
  · exact ⟨.serverError, if_neg hlow, iff_of_false nofun hrefused,
      iff_of_true rfl (Int64.not_lt.mp hlow)⟩

/-- Which codes below those of failures need no snapshot. -/
theorem other_iff {s : Status} (h : ofCode code = .ok s) (hhigh : code < 4400) :
    s = .other ↔ code ≠ 200 ∧ ¬ (4100 ≤ code ∧ code ≤ 4399) := by
  unfold ofCode at h
  split at h
  · cases h
  split at h
  · next h200 =>
    cases h
    exact iff_of_false nofun fun hother => hother.1 h200
  split at h
  · next hinfo =>
    cases h
    exact iff_of_false nofun fun hother => hother.2 hinfo
  · next h200 hinfo =>
    cases h
    exact iff_of_true rfl ⟨h200, hinfo⟩

end Status

/-! ### What the parts tell -/

namespace Inbound

open Json

variable {e : Envelope}

/-- A failure wins over everything else in an envelope. -/
theorem ofEnvelope_of_failed {kind : Failure} (h : Status.ofCode e.code = .ok (.failed kind)) :
    ofEnvelope e = .ok (.failure kind e.code e.message) := by
  rw [ofEnvelope, h]
  rfl

/-- Then a heartbeat wins over the snapshots. -/
theorem ofEnvelope_of_heartbeat {s : Status} (hs : Status.ofCode e.code = .ok s)
    (hf : s.failure? = none) (hm : e.message = heartbeatMessage) :
    ofEnvelope e = .ok .heartbeat := by
  rw [ofEnvelope]
  simp only [hs, hf, bind, Except.bind, if_pos hm]
  rfl

/-- Then a code that needs no snapshot makes a notice of an envelope that lacks one. -/
theorem ofEnvelope_of_absent (hs : Status.ofCode e.code = .ok .other)
    (hm : e.message ≠ heartbeatMessage) (ha : e.game = none ∨ e.player = none) :
    ofEnvelope e = .ok (.notice e.code e.message) := by
  have habsent : e.game.isNone ∨ e.player.isNone := by simpa using ha
  rw [ofEnvelope]
  simp only [hs, Status.failure?, bind, Except.bind, if_neg hm, true_and, if_pos habsent]
  rfl

/-- Everything else tells of snapshots: the game is read first, then the player. -/
theorem ofEnvelope_of_needed {s : Status} (hs : Status.ofCode e.code = .ok s)
    (hf : s.failure? = none) (hm : e.message ≠ heartbeatMessage)
    (hn : ¬ (s = .other ∧ (e.game = none ∨ e.player = none))) :
    ofEnvelope e = (do
      let g ← Envelope.snapshot Game.codec e.code "game" e.game
      let p ← Envelope.snapshot Player.codec e.code "curPlayer" e.player
      .ok (.update g p (if s ≠ .success ∧ e.message ≠ "" then some e.message else none))) := by
  have hneeded : ¬ (s = .other ∧ (e.game.isNone ∨ e.player.isNone)) := by simpa using hn
  rw [ofEnvelope]
  simp only [hs, hf, bind, Except.bind, if_neg hm, if_neg hneeded]
  rfl

/-- What an envelope tells that needs its snapshots, with the message that an update shows. -/
structure Snapshots (e : Envelope) (shown : Option String) (r : Except ProtocolError Inbound) :
    Prop where
  /-- It is an update when both snapshots are there and can be read, and only then. -/
  update : ∀ g p advisory, r = .ok (.update g p advisory) ↔
    (∃ v, e.game = some v ∧ Game.codec.read v = .ok g) ∧
      (∃ w, e.player = some w ∧ Player.codec.read w = .ok p) ∧ advisory = shown
  /-- The game is absent. -/
  missingGame : e.game = none → r = .error (.missingSnapshot e.code "game")
  /-- The game cannot be read. -/
  invalidGame : ∀ v f, e.game = some v → Game.codec.read v = .error f →
    r = .error (.invalidSnapshot "game" f)
  /-- The game can be read and the player is absent. -/
  missingPlayer : ∀ v g, e.game = some v → Game.codec.read v = .ok g → e.player = none →
    r = .error (.missingSnapshot e.code "curPlayer")
  /-- The game can be read and the player cannot. -/
  invalidPlayer : ∀ v g w f, e.game = some v → Game.codec.read v = .ok g → e.player = some w →
    Player.codec.read w = .error f → r = .error (.invalidSnapshot "curPlayer" f)

/-- Reading the game, then the player, tells of both or of the first that is at fault. -/
theorem snapshots_of_needed (e : Envelope) (shown : Option String) :
    Snapshots e shown (do
      let g ← Envelope.snapshot Game.codec e.code "game" e.game
      let p ← Envelope.snapshot Player.codec e.code "curPlayer" e.player
      .ok (.update g p shown)) := by
  refine ⟨fun g p advisory => ⟨fun h => ?_, ?_⟩, fun hgame => ?_, fun v f hv hf => ?_,
    fun v g hv hg hplayer => ?_, fun v g w f hv hg hw hf => ?_⟩
  · obtain ⟨g', hg, h⟩ := exists_of_bind_eq_ok h
    obtain ⟨p', hp, h⟩ := exists_of_bind_eq_ok h
    cases h
    exact ⟨Envelope.snapshot_eq_ok_iff.mp hg, Envelope.snapshot_eq_ok_iff.mp hp, rfl⟩
  · rintro ⟨hg, hp, rfl⟩
    rw [Envelope.snapshot_eq_ok_iff.mpr hg, Envelope.snapshot_eq_ok_iff.mpr hp]
    rfl
  · rw [hgame]
    rfl
  · rw [hv, Envelope.snapshot, hf]
    rfl
  · rw [Envelope.snapshot_eq_ok_iff.mpr ⟨v, hv, hg⟩, hplayer]
    rfl
  · rw [Envelope.snapshot_eq_ok_iff.mpr ⟨v, hv, hg⟩, hw, Envelope.snapshot, hf]
    rfl

/-- **What an envelope tells, for every text.**  A text that is no envelope is malformed.
Otherwise the parts of the envelope are those of the text, and a snapshot counts as absent
when nothing stands in its place, or the word null.  A negative code is unknown; one from 4400
on is a failure, whatever the message and the snapshots are; behind the other codes a
heartbeat wins over the snapshots; then a code that needs no snapshots makes a notice of an
envelope that lacks one, even when the one that is there cannot be read; and the snapshots
decide about everything else, with the message of the envelope unless it is empty or the code
is the plain one. -/
theorem classified (s : String) :
    (∀ f, Envelope.ofText s = .error f → Inbound.ofText s = .error (.malformed f)) ∧
    ∀ e, Envelope.ofText s = .ok e →
      let d := (Draft.ofText s).1
      let absent := e.game = none ∨ e.player = none
      let optional := e.code ≠ 200 ∧ ¬ (4100 ≤ e.code ∧ e.code ≤ 4399)
      e.Holds d ∧
      (e.game = none ↔ d.part 2 "game" = none ∨ d.part 2 "game" = some .null) ∧
      (e.player = none ↔ d.part 3 "curPlayer" = none ∨ d.part 3 "curPlayer" = some .null) ∧
      (e.code < 0 → Inbound.ofText s = .error (.unknownCode e.code)) ∧
      (4400 ≤ e.code → ∃ kind, Inbound.ofText s = .ok (.failure kind e.code e.message) ∧
        (kind = .unauthorized ↔ e.code = 4401) ∧ (kind = .serverError ↔ 4500 ≤ e.code)) ∧
      (0 ≤ e.code → e.code < 4400 →
        (e.message = "ping" → Inbound.ofText s = .ok .heartbeat) ∧
        (e.message ≠ "ping" →
          (optional ∧ absent → Inbound.ofText s = .ok (.notice e.code e.message)) ∧
          (¬ (optional ∧ absent) →
            Snapshots e (if e.code ≠ 200 ∧ e.message ≠ "" then some e.message else none)
              (Inbound.ofText s)))) := by
  refine ⟨fun f hf => by rw [Inbound.ofText, hf]; rfl, fun e he => ?_⟩
  have htext : Inbound.ofText s = ofEnvelope e := by
    rw [Inbound.ofText, he]
    rfl
  have hholds := Envelope.holds_of_ofText he
  intro d absent optional
  rw [htext]
  refine ⟨hholds, Envelope.absent_iff hholds.game, Envelope.absent_iff hholds.player,
    fun hneg => ?_, fun hfailed => ?_, fun hlow hhigh => ?_⟩
  · rw [ofEnvelope, Status.ofCode_of_neg hneg]
    rfl
  · obtain ⟨kind, hkind, hrefused, hserver⟩ := Status.ofCode_of_failure hfailed
    exact ⟨kind, ofEnvelope_of_failed hkind, hrefused, hserver⟩
  · obtain ⟨status, hstatus, hgoes, hplain⟩ := Status.ofCode_of_lt hlow hhigh
    have hother : status = .other ↔ optional := Status.other_iff hstatus hhigh
    refine ⟨ofEnvelope_of_heartbeat hstatus hgoes, fun hm => ⟨fun ha => ?_, fun hn => ?_⟩⟩
    · rw [hother.mpr ha.1] at hstatus
      exact ofEnvelope_of_absent hstatus hm ha.2
    · have hneeded : ¬ (status = .other ∧ absent) := by rwa [hother]
      rw [ofEnvelope_of_needed hstatus hgoes hm hneeded]
      simp only [hplain]
      exact snapshots_of_needed e _

end Inbound

end QuizClient
