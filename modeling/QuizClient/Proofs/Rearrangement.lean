import Mathlib.Logic.Relation
import QuizClient.Proofs.Classification
import QuizClient.Proofs.Grammar
import QuizClient.Proofs.Keeping
import QuizClient.Proofs.Places

/-!
# Members in another order and unknown members

What an envelope tells depends neither on the order of its members, nor on members that no
field answers to, nor does it on those of the objects in its snapshots.  Different limits are
at work: a member that an envelope passes over may hold any JSON, but what stands in a snapshot
is kept before it is read, so an unknown member of a record there must fit as well.

The fields of an envelope are stored one after another in text order, and two of them can be
stored in either order.  A snapshot is kept in key order first, and its unknown members are
passed over then.

## Main definitions

* `Record.Steps` — what one member of an object does.
* `Progress.Mirrors` — the same fields read, into records that differ by a change.
* `Record.Orderless` — two fields are stored in either order.
* `Snapshot` — the two snapshots of an envelope.
* `Inserted` — an unknown member in a record of a snapshot.
* `Rearranged` — one envelope is another one with its members, or those of an object in it, in
  another order, or with one more member.

## Main results

* `Record.foldlM_perm` — **members in another order.**
* `Inserted.keep?` — **a record with an unknown member is read as without it.**
* `Rearranged.exists_ofDraft` — a rearranged envelope has the same parts.
* `rearranged_tells_the_same` — **a rearranged envelope tells the same.**
-/

namespace QuizClient

open Json

namespace Json

/-! ### Members of a record -/

/-- The same fields read, into records that differ by a change. -/
structure Progress.Mirrors {σ : Type} (edit : σ → σ) (p q : Progress σ) : Prop where
  /-- The records differ by the change. -/
  value : q.value = edit p.value
  /-- The fields read are the same. -/
  seen : ∀ k, k ∈ q.seen ↔ k ∈ p.seen

namespace Record

variable {σ α β : Type} {r : Record Draft σ} {edit : σ → σ} {p p' q : Progress σ}

/-- What one member of an object does. -/
inductive Steps (r : Record Draft σ) (p : Progress σ) (key : String) (d : Draft) :
    Progress σ → Prop where
  /-- It is passed over. -/
  | passed (unknown : r.fields.find? (·.answers key) = none) (whole : d.whole = true) :
      Steps r p key d p
  /-- It is stored in its field, which has not come before. -/
  | stored {f : Field Draft σ} {t : σ} (found : r.fields.find? (·.answers key) = some f)
      (fresh : f.key ∉ p.seen) (store : f.store d p.value = .ok t) :
      Steps r p key d ⟨t, f.key :: p.seen⟩

theorem step_eq_ok_iff {e : Option String × Draft} :
    r.step p e = .ok q ↔ ∃ key, e.1 = some key ∧ r.Steps p key e.2 q := by
  obtain ⟨key, d⟩ := e
  cases key with
  | none => simp [step]
  | some key =>
    change r.member Draft.skip p key d = .ok q ↔ _
    constructor
    · intro h
      refine ⟨key, rfl, ?_⟩
      cases hf : r.fields.find? (·.answers key) with
      | none =>
        rw [member, hf] at h
        obtain ⟨u, hskip, rfl⟩ := exists_of_map_eq_ok h
        refine .passed hf ?_
        unfold Draft.skip at hskip
        split at hskip
        · assumption
        · cases hskip
      | some f =>
        obtain ⟨fresh, t, hstore, rfl⟩ := (member_of_find? hf).mp h
        exact .stored hf fresh hstore
    · rintro ⟨key', hkey, h⟩
      cases hkey
      cases h with
      | passed unknown whole => simp [member, unknown, Draft.skip, whole]
      | stored found fresh store => exact (member_of_find? found).mpr ⟨fresh, _, store, rfl⟩

/-- A change is followed over a member, if the field of the member does not notice it. -/
theorem Steps.mirror {key : String} {d : Draft}
    (hspare : ∀ f ∈ r.fields, f.key ∉ p.seen → f.Spares edit) (hpq : p.Mirrors edit q)
    (h : r.Steps p key d p') : ∃ q', r.Steps q key d q' ∧ p'.Mirrors edit q' := by
  cases h with
  | passed unknown whole => exact ⟨q, .passed unknown whole, hpq⟩
  | @stored f t found fresh store =>
    have hstore := hspare f (List.mem_of_find?_eq_some found) fresh d p.value t store
    rw [← hpq.value] at hstore
    refine ⟨_, .stored found (mt (hpq.seen f.key).mp fresh) hstore, rfl, fun k => ?_⟩
    simp [hpq.seen k]

theorem Steps.seen {key : String} {d : Draft} (h : r.Steps p key d p') {k : String}
    (hk : k ∈ p.seen) : k ∈ p'.seen := by
  cases h with
  | passed => exact hk
  | stored => exact List.mem_cons_of_mem _ hk

/-- An object is read to what its members make. -/
theorem ofDraft_object_eq_ok_iff {ms : List (Option String × Draft)} {a : σ} :
    r.ofDraft (.object ms) = .ok a ↔
      ∃ p, ms.foldlM r.step r.start = .ok p ∧ r.finish p = .ok a := by
  constructor
  · intro h
    obtain ⟨p, hp, hfinish⟩ := exists_of_bind_eq_ok h
    exact ⟨p, hp, hfinish⟩
  · rintro ⟨p, hp, hfinish⟩
    exact (congrArg (· >>= r.finish) hp).trans hfinish

theorem foldlM_append_eq_ok_iff {ms ms' : List (Option String × Draft)} :
    (ms ++ ms').foldlM r.step p = .ok q ↔
      ∃ m, ms.foldlM r.step p = .ok m ∧ ms'.foldlM r.step m = .ok q := by
  rw [List.foldlM_append]
  constructor
  · intro h
    obtain ⟨m, hm, h⟩ := exists_of_bind_eq_ok h
    exact ⟨m, hm, h⟩
  · rintro ⟨m, hm, h⟩
    exact (congrArg (· >>= fun m => ms'.foldlM r.step m) hm).trans h

theorem foldlM_cons_eq_ok_iff {key : Option String} {d : Draft}
    {ms : List (Option String × Draft)} :
    ((key, d) :: ms).foldlM r.step p = .ok q ↔
      ∃ k m, key = some k ∧ r.Steps p k d m ∧ ms.foldlM r.step m = .ok q := by
  rw [List.foldlM_cons]
  constructor
  · intro h
    obtain ⟨m, hm, h⟩ := exists_of_bind_eq_ok h
    obtain ⟨k, hk, hstep⟩ := step_eq_ok_iff.mp hm
    exact ⟨k, m, hk, hstep, h⟩
  · rintro ⟨k, m, hk, hstep, h⟩
    rw [step_eq_ok_iff.mpr ⟨k, hk, hstep⟩]
    exact h

/-- **A change is followed along members**, if no field still to come notices it. -/
theorem foldlM_mirror {ms : List (Option String × Draft)}
    (hspare : ∀ f ∈ r.fields, f.key ∉ p.seen → f.Spares edit) (hpq : p.Mirrors edit q)
    (h : ms.foldlM r.step p = .ok p') :
    ∃ q', ms.foldlM r.step q = .ok q' ∧ p'.Mirrors edit q' := by
  induction ms generalizing p q with
  | nil =>
    cases h
    exact ⟨q, rfl, hpq⟩
  | cons e ms ih =>
    obtain ⟨key, m, hkey, hstep, h⟩ := foldlM_cons_eq_ok_iff.mp h
    obtain ⟨n, hn, hmn⟩ := hstep.mirror hspare hpq
    have hspare' : ∀ f ∈ r.fields, f.key ∉ m.seen → f.Spares edit :=
      fun f hf hfresh => hspare f hf (mt hstep.seen hfresh)
    obtain ⟨q', hq', hmirror⟩ := ih hspare' hmn h
    exact ⟨q', foldlM_cons_eq_ok_iff.mpr ⟨key, n, hkey, hn, hq'⟩, hmirror⟩

theorem finish_mirror {a : σ} (hpq : p.Mirrors edit q) (h : r.finish p = .ok a) :
    r.finish q = .ok (edit a) := by
  obtain ⟨rfl, hrequired⟩ := seen_of_finish h
  rw [← hpq.value]
  exact finish_of_seen fun g hg hreq => (hpq.seen g.key).mpr (hrequired g hg hreq)

/-! ### The order of members -/

/-- Two fields are stored in either order. -/
def Orderless (r : Record Draft σ) : Prop :=
  ∀ f ∈ r.fields, ∀ g ∈ r.fields, f.key ≠ g.key → ∀ x y s s₁ s₂,
    f.store x s = .ok s₁ → g.store y s₁ = .ok s₂ → ∃ t, g.store y s = .ok t ∧ f.store x t = .ok s₂

/-- Fields that set components of their own are stored in either order. -/
theorem exists_store_swap {key key' : String} {read : Draft → Except Fault α}
    {read' : Draft → Except Fault β} {set : α → σ → σ} {set' : β → σ → σ}
    {x y : Draft} {s s₁ s₂ : σ} (h₁ : (Draft.field key read set).store x s = .ok s₁)
    (h₂ : (Draft.field key' read' set').store y s₁ = .ok s₂)
    (h : ∀ a b s, set' b (set a s) = set a (set' b s)) :
    ∃ t, (Draft.field key' read' set').store y s = .ok t ∧
      (Draft.field key read set).store x t = .ok s₂ := by
  obtain ⟨a, ha, rfl⟩ := exists_of_map_eq_ok h₁
  obtain ⟨b, hb, rfl⟩ := exists_of_map_eq_ok h₂
  refine ⟨set' b s, congrArg (Functor.map _) hb, ?_⟩
  rw [h]
  exact congrArg (Functor.map _) ha

/-- Two members can be taken in either order. -/
theorem Steps.swap (hr : r.Orderless) {key key' : String} {d d' : Draft} {p₁ p₂ : Progress σ}
    (h₁ : r.Steps p key d p₁) (h₂ : r.Steps p₁ key' d' p₂) :
    ∃ q₁ q₂, r.Steps p key' d' q₁ ∧ r.Steps q₁ key d q₂ ∧ p₂.Mirrors id q₂ := by
  cases h₁ with
  | passed unknown whole => exact ⟨p₂, p₂, h₂, .passed unknown whole, rfl, fun _ => .rfl⟩
  | @stored f s₁ found fresh store =>
    cases h₂ with
    | passed unknown' whole' =>
      exact ⟨p, _, .passed unknown' whole', .stored found fresh store, rfl, fun _ => .rfl⟩
    | @stored g s₂ found' fresh' store' =>
      obtain ⟨hne, hfresh⟩ : g.key ≠ f.key ∧ g.key ∉ p.seen := by simpa using fresh'
      have hf := List.mem_of_find?_eq_some found
      have hg := List.mem_of_find?_eq_some found'
      obtain ⟨t, ht, hs₂⟩ := hr f hf g hg (Ne.symm hne) d d' p.value s₁ s₂ store store'
      have hfresh' : f.key ∉ g.key :: p.seen := by simp [Ne.symm hne, fresh]
      refine ⟨_, _, .stored found' hfresh ht, .stored found hfresh' hs₂, rfl, fun k => ?_⟩
      simp only [List.mem_cons]
      exact or_left_comm

/-- **Members in another order** are read to the same. -/
theorem foldlM_perm (hr : r.Orderless) {ms ms' : List (Option String × Draft)}
    (hperm : ms.Perm ms') (h : ms.foldlM r.step p = .ok p') :
    ∃ q', ms'.foldlM r.step p = .ok q' ∧ p'.Mirrors id q' := by
  induction hperm generalizing p p' with
  | nil => exact ⟨p', h, rfl, fun _ => .rfl⟩
  | cons e _ ih =>
    obtain ⟨key, m, hkey, hstep, h⟩ := foldlM_cons_eq_ok_iff.mp h
    obtain ⟨q', hq', hmirror⟩ := ih h
    exact ⟨q', foldlM_cons_eq_ok_iff.mpr ⟨key, m, hkey, hstep, hq'⟩, hmirror⟩
  | swap e' e ms =>
    obtain ⟨key, p₁, hkey, hstep, h⟩ := foldlM_cons_eq_ok_iff.mp h
    obtain ⟨key', p₂, hkey', hstep', h⟩ := foldlM_cons_eq_ok_iff.mp h
    obtain ⟨q₁, q₂, hq₁, hq₂, hmirror⟩ := hstep.swap hr hstep'
    obtain ⟨q', hq', hmirror'⟩ := foldlM_mirror (fun _ _ _ _ _ _ ht => ht) hmirror h
    have htail := foldlM_cons_eq_ok_iff.mpr ⟨key, q₂, hkey, hq₂, hq'⟩
    exact ⟨q', foldlM_cons_eq_ok_iff.mpr ⟨key', q₁, hkey', hq₁, htail⟩, hmirror'⟩
  | trans _ _ ih ih' =>
    obtain ⟨q₁, h₁, hmirror₁⟩ := ih h
    obtain ⟨q₂, h₂, hmirror₂⟩ := ih' h₁
    refine ⟨q₂, h₂, hmirror₂.value.trans hmirror₁.value, fun k => ?_⟩
    exact (hmirror₂.seen k).trans (hmirror₁.seen k)

end Record

/-- Members that no field answers to are passed over. -/
theorem Record.ofValue_filter {σ : Type} (r : Record Value σ) {known : String → Bool}
    (h : ∀ key, known key = false → r.fields.find? (·.answers key) = none)
    (ms : List (String × Value)) :
    r.ofValue (.object (ms.filter fun e => known e.1)) = r.ofValue (.object ms) := by
  have hfoldl : ∀ p, (ms.filter fun e => known e.1).foldlM
        (fun p e => r.member (fun _ => .ok ()) p e.1 e.2) p
      = ms.foldlM (fun p e => r.member (fun _ => .ok ()) p e.1 e.2) p := by
    induction ms with
    | nil => exact fun _ => rfl
    | cons e ms ih =>
      intro p
      cases hknown : known e.1 with
      | false =>
        have hpassed : r.member (fun _ => .ok ()) p e.1 e.2 = .ok p := by
          rw [member, h e.1 hknown]
          rfl
        rw [List.filter_cons_of_neg (by simp [hknown]), List.foldlM_cons, hpassed, ih]
        rfl
      | true =>
        rw [List.filter_cons_of_pos (by simp [hknown]), List.foldlM_cons, List.foldlM_cons]
        exact bind_congr ih
  exact congrArg (· >>= r.finish) (hfoldl r.start)

end Json

/-! ### Records in a snapshot -/

/-- One more member in a record of a snapshot, or in one that it holds, under a key that the
record does not know.  The record stands for itself, or is one of a list. -/
inductive Inserted : Kind → (many : Bool) → (depth : Nat) → Draft → Draft → Prop where
  /-- In the record itself. -/
  | here {k : Kind} {depth : Nat} {before after : List (Option String × Draft)} {key : String}
      {x : Draft} (unknown : ∀ f ∈ k.shape.members, f.answers key = false) (fits : x.Fits depth) :
      Inserted k false (depth + 1) (.object (before ++ after))
        (.object (before ++ (some key, x) :: after))
  /-- In a record of a list. -/
  | among {k : Kind} {depth : Nat} {before after : List Draft} {d d' : Draft}
      (inner : Inserted k false depth d d') :
      Inserted k true (depth + 1) (.array (before ++ d :: after)) (.array (before ++ d' :: after))
  /-- In a field of an object. -/
  | member {k m : Kind} (link : Link k m) {depth : Nat}
      {before after : List (Option String × Draft)} {key : String} {d d' : Draft}
      (mem : key ∈ link.keys) (inner : Inserted m link.many depth d d') :
      Inserted k false (depth + 1) (.object (before ++ (some key, d) :: after))
        (.object (before ++ (some key, d') :: after))
  /-- In a field of an array. -/
  | item {k m : Kind} (link : Link k m) {depth : Nat} {before after : List Draft} {d d' : Draft}
      (place : before.length = link.position) (inner : Inserted m link.many depth d d') :
      Inserted k false (depth + 1) (.array (before ++ d :: after)) (.array (before ++ d' :: after))

/-- What is read of one record is read of another one too, or of the records in the same place
of two lists. -/
def Kind.Alike (k : Kind) (many : Bool) (v v' : Value) : Prop :=
  ∃ (slot : Slot many) (w w' : Value), v = slot.plug w ∧ v' = slot.plug w' ∧ w ≠ .null ∧
    w' ≠ .null ∧ ∀ a, k.codec.read w = .ok a → k.codec.read w' = .ok a

namespace Kind.Alike

variable {k m : Kind} {v v' : Value}

theorem alone (hv : v ≠ .null) (hv' : v' ≠ .null)
    (h : ∀ a, k.codec.read v = .ok a → k.codec.read v' = .ok a) : k.Alike false v v' :=
  ⟨.alone, v, v', rfl, rfl, hv, hv', h⟩

theorem of_alone (h : k.Alike false v v') :
    v ≠ .null ∧ v' ≠ .null ∧ ∀ a, k.codec.read v = .ok a → k.codec.read v' = .ok a := by
  obtain ⟨slot, w, w', rfl, rfl, h⟩ := h
  cases slot
  exact h

end Kind.Alike

theorem Link.modify_id {k m : Kind} (link : Link k m) (i : Nat) (a : k.Rec) :
    link.modify i id a = a := by
  cases link <;> simp [Link.modify]

/-- A record is read as one whose field holds records that are read alike. -/
theorem Link.read_alike {k m : Kind} (link : Link k m) (frame : Frame link.keys link.position)
    {v v' : Value} (h : m.Alike link.many v v') {a : k.Rec}
    (hread : k.codec.read (frame.plug v) = .ok a) : k.codec.read (frame.plug v') = .ok a := by
  obtain ⟨slot, w, w', rfl, rfl, hw, hw', hsame⟩ := h
  obtain ⟨b, hb, hinner⟩ := (link.reaches frame slot).reach w a hw hread
  have hmodified := (hinner w' hw').1 id (hsame b hb)
  rwa [link.modify_id] at hmodified

/-- **A record with an unknown member is read as without it**, wherever it stands. -/
theorem Inserted.keep? {k : Kind} {many : Bool} {depth : Nat} {d d' : Draft}
    (h : Inserted k many depth d d') {v : Value} (hv : d.keep? depth = some v) :
    ∃ v', d'.keep? depth = some v' ∧ k.Alike many v v' := by
  induction h generalizing v with
  | @here k depth before after key x unknown fits =>
    obtain ⟨w, hw⟩ := fits.exists_keep?
    obtain ⟨es, hes, rfl⟩ := Draft.keep?_object_eq_some.mp hv
    obtain ⟨front, back, hfront, hback, rfl⟩ := Draft.keepMembers?_append_eq_some.mp hes
    have hcons : Draft.keepMembers? depth ((some key, x) :: after) = some ((key, w) :: back) :=
      Draft.keepMembers?_cons_eq_some.mpr ⟨key, w, back, rfl, hw, hback, rfl⟩
    have happend := Draft.keepMembers?_append_eq_some.mpr ⟨front, _, hfront, hcons, rfl⟩
    refine ⟨_, Draft.keep?_object_eq_some.mpr ⟨_, happend, rfl⟩, ?_⟩
    have hknown : ∀ key', (key' != key) = false →
        k.shape.record.fields.find? (·.answers key') = none := by
      intro key' hkey'
      obtain rfl : key' = key := by simpa using hkey'
      rw [List.find?_eq_none]
      intro f hf
      obtain ⟨f', hf', rfl⟩ := List.mem_map.mp hf
      simp [unknown f' hf']
    have hfiltered := fun es => k.shape.record.ofValue_filter hknown (Keyed.ofList es)
    have hread : k.codec.read = k.shape.record.ofValue := rfl
    refine .alone nofun nofun fun a ha => ?_
    rw [hread, ← hfiltered, Keyed.filter_ofList (· != key)] at ha ⊢
    rw [← ha]
    simp
  | among _ ih =>
    obtain ⟨front, w, back, -, hw, rfl, hkeep⟩ := Draft.exists_keep?_array hv
    obtain ⟨w', hw', halike⟩ := ih hw
    exact ⟨_, hkeep _ w' hw', .among front back, w, w', rfl, rfl, halike.of_alone⟩
  | @member k m link depth before after key d d' mem _ ih =>
    obtain ⟨front, key', w, back, hkey, hw, rfl, hkeep⟩ := Draft.exists_keep?_object hv
    cases hkey
    obtain ⟨w', hw', halike⟩ := ih hw
    refine ⟨_, hkeep _ w' hw', .alone nofun nofun fun a ha => ?_⟩
    -- a later member under the same key may have taken its place
    rcases Keyed.ofList_carries front back key with ⟨before', after', hplug⟩ | ⟨es, hgone⟩
    · simp only [hplug] at ha ⊢
      exact link.read_alike (.object before' after' key mem) halike ha
    · simp only [hgone] at ha ⊢
      exact ha
  | @item k m link depth before after d d' place _ ih =>
    obtain ⟨front, w, back, hlength, hw, rfl, hkeep⟩ := Draft.exists_keep?_array hv
    obtain ⟨w', hw', halike⟩ := ih hw
    refine ⟨_, hkeep _ w' hw', .alone nofun nofun fun a ha => ?_⟩
    exact link.read_alike (.array front back (hlength.trans place)) halike ha

/-! ### Envelopes -/

theorem Envelope.kept_of_ne_null {d : Draft} {v : Value} (hv : d.keep? snapshotDepth = some v)
    (h : v ≠ .null) : kept d = .ok (some v) := by
  unfold kept
  rw [hv]
  cases v <;> first | rfl | exact absurd rfl h

/-- The snapshots of an envelope. -/
inductive Snapshot where
  /-- The game. -/
  | game
  /-- The player at this client. -/
  | player

namespace Snapshot

/-- The key of a snapshot. -/
def key : Snapshot → String
  | game => "game"
  | player => "curPlayer"

/-- How many fields come before it. -/
def position : Snapshot → Nat
  | game => 2
  | player => 3

/-- What it is. -/
def kind : Snapshot → Kind
  | game => .game
  | player => .player

/-- The snapshot of an envelope. -/
def get : Snapshot → Envelope → Option Value
  | game => Envelope.game
  | player => Envelope.player

/-- The envelope with another snapshot. -/
def set : Snapshot → Option Value → Envelope → Envelope
  | game, v => fun e => { e with game := v }
  | player, v => fun e => { e with player := v }

/-- One snapshot is another one with the members of an object in it in another order, or with
one more member in a record in it. -/
inductive Rearranged (s : Snapshot) : Draft → Draft → Prop where
  /-- Members in another order. -/
  | permuted {d d' : Draft} (h : d.Permuted d') : Rearranged s d d'
  /-- One more member. -/
  | inserted {d d' : Draft} (h : Inserted s.kind false Envelope.snapshotDepth d d') :
      Rearranged s d d'

/-- The same snapshot, or one that is read alike. -/
def Alike (s : Snapshot) (o o' : Option Value) : Prop :=
  o' = o ∨ ∃ v v', o = some v ∧ o' = some v' ∧ s.kind.Alike false v v'

/-- The field of a snapshot. -/
def field (s : Snapshot) : Field Draft Envelope := Draft.field s.key Envelope.kept s.set

theorem find?_key (s : Snapshot) :
    Envelope.record.fields.find? (·.answers s.key) = some s.field := by
  cases s <;> rfl

theorem getElem?_position (s : Snapshot) : Envelope.record.fields[s.position]? = some s.field := by
  cases s <;> rfl

theorem spares (s : Snapshot) (o : Option Value) :
    ∀ f ∈ Envelope.record.fields, f.key ≠ s.key → f.Spares (s.set o) := by
  intro f hf hne d e e' he
  simp only [Envelope.record, List.mem_cons, List.not_mem_nil, or_false] at hf
  rcases hf with rfl | rfl | rfl | rfl <;> cases s
  all_goals first
    | exact absurd rfl hne
    | obtain ⟨a, ha, rfl⟩ := exists_of_map_eq_ok he
      exact congrArg (Functor.map _) ha

/-- **A rearranged snapshot** is kept, and read alike. -/
theorem Rearranged.kept {s : Snapshot} {d d' : Draft} (h : s.Rearranged d d') {o : Option Value}
    (ho : Envelope.kept d = .ok o) : ∃ o', Envelope.kept d' = .ok o' ∧ s.Alike o o' := by
  cases hv : d.keep? Envelope.snapshotDepth with
  | none =>
    rw [Envelope.kept, hv] at ho
    cases ho
  | some v =>
    cases h with
    | permuted hpermuted =>
      refine ⟨o, ?_, .inl rfl⟩
      rw [← ho, Envelope.kept, Envelope.kept, hv, hpermuted.keep? hv]
    | inserted hinserted =>
      obtain ⟨v', hv', halike⟩ := hinserted.keep? hv
      obtain ⟨hsolid, hsolid', -⟩ := halike.of_alone
      rw [Envelope.kept_of_ne_null hv hsolid] at ho
      cases ho
      exact ⟨_, Envelope.kept_of_ne_null hv' hsolid', .inr ⟨v, v', rfl, rfl, halike⟩⟩

end Snapshot

/-- One envelope is another one with its members, or those of an object in a snapshot, in another
order, or with one more member that is unknown where it stands. -/
inductive Rearranged : Draft → Draft → Prop where
  /-- The members of the envelope in another order. -/
  | permuted {ms ms' : List (Option String × Draft)} (perm : ms.Perm ms') :
      Rearranged (.object ms) (.object ms')
  /-- One more member of the envelope. -/
  | inserted {before after : List (Option String × Draft)} {key : String} {x : Draft}
      (unknown : key ∉ ["code", "message", "game", "curPlayer"]) (whole : x.whole = true) :
      Rearranged (.object (before ++ after)) (.object (before ++ (some key, x) :: after))
  /-- In a snapshot of an object. -/
  | member (s : Snapshot) {before after : List (Option String × Draft)} {d d' : Draft}
      (inner : s.Rearranged d d') :
      Rearranged (.object (before ++ (some s.key, d) :: after))
        (.object (before ++ (some s.key, d') :: after))
  /-- In a snapshot of an array. -/
  | item (s : Snapshot) {before after : List Draft} {d d' : Draft}
      (place : before.length = s.position) (inner : s.Rearranged d d') :
      Rearranged (.array (before ++ d :: after)) (.array (before ++ d' :: after))

namespace Envelope

/-- The same envelope, but for snapshots that are read alike. -/
structure Alike (e e' : Envelope) : Prop where
  /-- The code is the same. -/
  code : e'.code = e.code
  /-- The message is the same. -/
  message : e'.message = e.message
  /-- The snapshots are read alike. -/
  snapshots : ∀ s : Snapshot, s.Alike (s.get e) (s.get e')

theorem Alike.refl (e : Envelope) : e.Alike e := ⟨rfl, rfl, fun _ => .inl rfl⟩

theorem alike_set (s : Snapshot) {o o' : Option Value} (h : s.Alike o o') {e : Envelope}
    (he : s.get e = o) : e.Alike (s.set o' e) := by
  subst he
  cases s with
  | game => exact ⟨rfl, rfl, fun s => by cases s; exacts [h, .inl rfl]⟩
  | player => exact ⟨rfl, rfl, fun s => by cases s; exacts [.inl rfl, h]⟩

theorem orderless : Envelope.record.Orderless := by
  intro f hf g hg hne x y s s₁ s₂ h₁ h₂
  simp only [record, List.mem_cons, List.not_mem_nil, or_false] at hf hg
  rcases hf with rfl | rfl | rfl | rfl <;> rcases hg with rfl | rfl | rfl | rfl
  all_goals
    try dsimp only at h₁ h₂ ⊢
    first
      | exact absurd rfl hne
      | exact Record.exists_store_swap h₁ h₂ fun _ _ _ => rfl

theorem find?_of_unknown {key : String} (h : key ∉ ["code", "message", "game", "curPlayer"]) :
    record.fields.find? (·.answers key) = none := by
  rw [List.find?_eq_none]
  intro f hf
  simp only [record, List.mem_cons, List.not_mem_nil, or_false] at hf
  simp only [List.mem_cons, List.not_mem_nil, or_false, not_or] at h
  obtain ⟨hcode, hmessage, hgame, hplayer⟩ := h
  rcases hf with rfl | rfl | rfl | rfl
  · simpa [Field.answers, Draft.field] using Ne.symm hcode
  · simpa [Field.answers, Draft.field] using Ne.symm hmessage
  · simpa [Field.answers, Draft.field] using Ne.symm hgame
  · simpa [Field.answers, Draft.field] using Ne.symm hplayer

end Envelope

theorem Snapshot.set_set (s : Snapshot) (o o' : Option Value) (e : Envelope) :
    s.set o' (s.set o e) = s.set o' e := by
  cases s <;> rfl

theorem Snapshot.get_set (s : Snapshot) (o : Option Value) (e : Envelope) :
    s.get (s.set o e) = o := by
  cases s <;> rfl

/-- An envelope with a rearranged snapshot, as a member. -/
theorem Snapshot.Rearranged.exists_ofDraft_object {s : Snapshot} {d d' : Draft}
    (h : s.Rearranged d d') {before after : List (Option String × Draft)} {e : Envelope}
    (he : Envelope.record.ofDraft (.object (before ++ (some s.key, d) :: after)) = .ok e) :
    ∃ e', Envelope.record.ofDraft (.object (before ++ (some s.key, d') :: after)) = .ok e' ∧
      e.Alike e' := by
  obtain ⟨p, hp, hfinish⟩ := Record.ofDraft_object_eq_ok_iff.mp he
  obtain ⟨p₁, hp₁, hp⟩ := Record.foldlM_append_eq_ok_iff.mp hp
  obtain ⟨key, p₂, hkey, hstep, hp⟩ := Record.foldlM_cons_eq_ok_iff.mp hp
  cases hkey
  cases hstep with
  | passed unknown =>
    rw [s.find?_key] at unknown
    cases unknown
  | @stored f t found fresh store =>
    cases s.find?_key.symm.trans found
    obtain ⟨o, ho, rfl⟩ := exists_of_map_eq_ok store
    obtain ⟨o', ho', halike⟩ := h.kept ho
    have hspare : ∀ o, ∀ f ∈ Envelope.record.fields, f.key ∉ s.key :: p₁.seen →
        f.Spares (s.set o) :=
      fun o f hf hnew => s.spares o f hf fun heq => hnew (heq ▸ List.mem_cons_self)
    -- the fields behind it leave the snapshot as it is
    have hmirror : ∀ o', Progress.Mirrors (s.set o') ⟨s.set o p₁.value, s.key :: p₁.seen⟩
        ⟨s.set o' p₁.value, s.key :: p₁.seen⟩ :=
      fun o' => ⟨(s.set_set o o' p₁.value).symm, fun _ => .rfl⟩
    obtain ⟨q, hq, hsame⟩ := Record.foldlM_mirror (hspare o) (hmirror o) hp
    obtain ⟨q', hq', hother⟩ := Record.foldlM_mirror (hspare o') (hmirror o') hp
    cases hq.symm.trans hp
    have hget : s.get e = o := by
      rw [(Record.seen_of_finish hfinish).1, hsame.value, s.get_set]
    have hstore : s.field.store d' p₁.value = .ok (s.set o' p₁.value) :=
      congrArg (Functor.map _) ho'
    have htail := Record.foldlM_cons_eq_ok_iff.mpr
      ⟨s.key, _, rfl, .stored s.find?_key fresh hstore, hq'⟩
    have hfold := Record.foldlM_append_eq_ok_iff.mpr ⟨p₁, hp₁, htail⟩
    have hdone := Record.finish_mirror hother hfinish
    exact ⟨_, Record.ofDraft_object_eq_ok_iff.mpr ⟨q', hfold, hdone⟩,
      Envelope.alike_set s halike hget⟩

/-- An envelope with a rearranged snapshot, as an item. -/
theorem Snapshot.Rearranged.exists_ofDraft_array {s : Snapshot} {d d' : Draft}
    (h : s.Rearranged d d') {before after : List Draft} (place : before.length = s.position)
    {e : Envelope} (he : Envelope.record.ofDraft (.array (before ++ d :: after)) = .ok e) :
    ∃ e', Envelope.record.ofDraft (.array (before ++ d' :: after)) = .ok e' ∧ e.Alike e' := by
  have hfield : Envelope.record.fields[before.length]? = some s.field := by
    rw [place, s.getElem?_position]
  have hread : ∀ x, Envelope.record.ofDraft (.array (before ++ x :: after)) = (do
      let e ← (Envelope.record.fields.zip before).foldlM (fun e (g, y) => g.store y e)
        Envelope.record.blank
      let e ← s.field.store x e
      Envelope.record.items .malformed (Envelope.record.fields.drop (before.length + 1))
        (0 + before.length + 1) after e) :=
    fun x => Record.items_append hfield .malformed x after 0 Envelope.record.blank
  have hkeys : ∀ g ∈ Envelope.record.fields.drop (s.position + 1), g.key ≠ s.key := by
    cases s <;> decide
  have hspare : ∀ o, ∀ g ∈ Envelope.record.fields.drop (before.length + 1),
      g.Spares (s.set o) :=
    fun o g hg => s.spares o g (List.mem_of_mem_drop hg) (hkeys g (place ▸ hg))
  rw [hread] at he
  obtain ⟨e₁, he₁, he⟩ := exists_of_bind_eq_ok he
  obtain ⟨e₂, he₂, he⟩ := exists_of_bind_eq_ok he
  obtain ⟨o, ho, rfl⟩ := exists_of_map_eq_ok he₂
  obtain ⟨o', ho', halike⟩ := h.kept ho
  -- the fields behind it leave the snapshot as it is
  have hsame : Envelope.record.items .malformed (Envelope.record.fields.drop (before.length + 1))
      (0 + before.length + 1) after (s.set o e₁) = .ok (s.set o e) := by
    rw [← s.set_set o o e₁]
    exact Record.items_shadow (hspare o) he
  have hother : Envelope.record.items .malformed (Envelope.record.fields.drop (before.length + 1))
      (0 + before.length + 1) after (s.set o' e₁) = .ok (s.set o' e) := by
    rw [← s.set_set o o' e₁]
    exact Record.items_shadow (hspare o') he
  have hset : e = s.set o e := Except.ok.inj (he.symm.trans hsame)
  have hget : s.get e = o := by rw [hset, s.get_set]
  have hstore : s.field.store d' e₁ = .ok (s.set o' e₁) := congrArg (Functor.map _) ho'
  refine ⟨s.set o' e, ?_, Envelope.alike_set s halike hget⟩
  rw [hread, he₁]
  change (s.field.store d' e₁ >>= _) = _
  rw [hstore]
  exact hother

/-- **A rearranged envelope has the same parts**, but for snapshots that are read alike. -/
theorem Rearranged.exists_ofDraft {d d' : Draft} (h : Rearranged d d') {e : Envelope}
    (he : Envelope.record.ofDraft d = .ok e) :
    ∃ e', Envelope.record.ofDraft d' = .ok e' ∧ e.Alike e' := by
  cases h with
  | permuted perm =>
    obtain ⟨p, hp, hfinish⟩ := Record.ofDraft_object_eq_ok_iff.mp he
    obtain ⟨q, hq, hmirror⟩ := Record.foldlM_perm Envelope.orderless perm hp
    have hdone := Record.finish_mirror hmirror hfinish
    exact ⟨e, Record.ofDraft_object_eq_ok_iff.mpr ⟨q, hq, hdone⟩, .refl e⟩
  | @inserted before after key x unknown whole =>
    obtain ⟨p, hp, hfinish⟩ := Record.ofDraft_object_eq_ok_iff.mp he
    obtain ⟨p₁, hp₁, hp⟩ := Record.foldlM_append_eq_ok_iff.mp hp
    have hpassed := Record.Steps.passed (p := p₁) (Envelope.find?_of_unknown unknown) whole
    have htail := Record.foldlM_cons_eq_ok_iff.mpr ⟨key, p₁, rfl, hpassed, hp⟩
    have hfold := Record.foldlM_append_eq_ok_iff.mpr ⟨p₁, hp₁, htail⟩
    exact ⟨e, Record.ofDraft_object_eq_ok_iff.mpr ⟨p, hfold, hfinish⟩, .refl e⟩
  | member s inner => exact inner.exists_ofDraft_object he
  | item s place inner => exact inner.exists_ofDraft_array place he

/-! ### What an envelope tells -/

/-- A snapshot that is read alike is read to the same. -/
theorem Snapshot.Alike.snapshot {s : Snapshot} {o o' : Option Value} (h : s.Alike o o')
    {code : Int64} {key : String} {a : s.kind.Rec}
    (ha : Envelope.snapshot s.kind.codec code key o = .ok a) :
    Envelope.snapshot s.kind.codec code key o' = .ok a := by
  rcases h with rfl | ⟨v, v', rfl, rfl, halike⟩
  · exact ha
  · obtain ⟨w, hw, hread⟩ := Envelope.snapshot_eq_ok_iff.mp ha
    cases hw
    exact Envelope.snapshot_eq_ok_iff.mpr ⟨v', rfl, halike.of_alone.2.2 a hread⟩

theorem Snapshot.Alike.eq_none_iff {s : Snapshot} {o o' : Option Value} (h : s.Alike o o') :
    o' = none ↔ o = none := by
  rcases h with rfl | ⟨v, v', rfl, rfl, -⟩
  · exact .rfl
  · exact iff_of_false nofun nofun

/-- Envelopes that are alike tell the same. -/
theorem Inbound.ofEnvelope_alike {e e' : Envelope} (h : e.Alike e') {i : Inbound}
    (hi : Inbound.ofEnvelope e = .ok i) : Inbound.ofEnvelope e' = .ok i := by
  obtain ⟨status, hs, -⟩ := exists_of_bind_eq_ok hi
  have hs' : Status.ofCode e'.code = .ok status := by rw [h.code, hs]
  have hgame : e'.game = none ↔ e.game = none := (h.snapshots .game).eq_none_iff
  have hplayer : e'.player = none ↔ e.player = none := (h.snapshots .player).eq_none_iff
  cases hf : status.failure? with
  | some kind =>
    obtain rfl : status = .failed kind := by cases status <;> simp_all [Status.failure?]
    rw [ofEnvelope_of_failed hs] at hi
    rw [ofEnvelope_of_failed hs', h.code, h.message, hi]
  | none =>
    by_cases hm : e.message = heartbeatMessage
    · rw [ofEnvelope_of_heartbeat hs hf hm] at hi
      rw [ofEnvelope_of_heartbeat hs' hf (h.message.trans hm), hi]
    have hm' : e'.message ≠ heartbeatMessage := by rwa [h.message]
    by_cases hn : status = .other ∧ (e.game = none ∨ e.player = none)
    · obtain ⟨rfl, habsent⟩ := hn
      rw [ofEnvelope_of_absent hs hm habsent] at hi
      rw [ofEnvelope_of_absent hs' hm' (by rwa [hgame, hplayer]), h.code, h.message, hi]
    · rw [ofEnvelope_of_needed hs hf hm hn] at hi
      rw [ofEnvelope_of_needed hs' hf hm' (by rwa [hgame, hplayer]), h.code, h.message]
      obtain ⟨g, hg, hi⟩ := exists_of_bind_eq_ok hi
      obtain ⟨p, hp, hi⟩ := exists_of_bind_eq_ok hi
      have hg' : Envelope.snapshot Game.codec e.code "game" e'.game = .ok g :=
        (h.snapshots .game).snapshot hg
      have hp' : Envelope.snapshot Player.codec e.code "curPlayer" e'.player = .ok p :=
        (h.snapshots .player).snapshot hp
      rw [hg', ← hi]
      change (Envelope.snapshot Player.codec e.code "curPlayer" e'.player >>= _) = _
      rw [hp']
      rfl

/-! ### Texts -/

/-- What the tree of a text tells. -/
def Tells (d : Draft) (i : Inbound) : Prop :=
  ∃ e, Envelope.record.ofDraft d = .ok e ∧ Inbound.ofEnvelope e = .ok i

theorem Rearranged.tells {d d' : Draft} (h : Rearranged d d') {i : Inbound} (hi : Tells d i) :
    Tells d' i := by
  obtain ⟨e, he, hi⟩ := hi
  obtain ⟨e', he', halike⟩ := h.exists_ofDraft he
  exact ⟨e', he', Inbound.ofEnvelope_alike halike hi⟩

/-- A text tells what its tree tells. -/
theorem tells_iff_ofText {s : String} {d : Draft} (h : Spells s.toList (.value d)) {i : Inbound} :
    Tells d i ↔ Inbound.ofText s = .ok i := by
  have htext : Inbound.ofText s
      = (Envelope.record.ofDraft d).mapError .malformed >>= Inbound.ofEnvelope := by
    rw [Inbound.ofText, Envelope.ofText, Draft.readText, spells_iff_ofText.mp h]
    dsimp only
    cases Envelope.record.ofDraft d <;> rfl
  rw [htext]
  constructor
  · rintro ⟨e, he, hi⟩
    rw [he]
    exact hi
  · intro h
    obtain ⟨e, he, hi⟩ := exists_of_bind_eq_ok h
    cases hread : Envelope.record.ofDraft d with
    | error f =>
      rw [hread] at he
      cases he
    | ok e' =>
      rw [hread] at he
      cases he
      exact ⟨e, hread, hi⟩

/-- A text that tells something spells a draft. -/
theorem exists_spells_of_ofText {s : String} {i : Inbound} (h : Inbound.ofText s = .ok i) :
    ∃ d, Spells s.toList (.value d) := by
  have hended : (Draft.ofText s).2 = true := by
    by_contra hrest
    have htext : Envelope.ofText s
        = (Envelope.record.ofDraft (Draft.ofText s).1 >>= fun _ => .error .malformed) := by
      rw [Envelope.ofText, Draft.readText]
      simp only [hrest, if_false]
    rw [Inbound.ofText, htext] at h
    cases hread : Envelope.record.ofDraft (Draft.ofText s).1 <;> rw [hread] at h <;> cases h
  exact ⟨(Draft.ofText s).1, spells_iff_ofText.mpr (Prod.ext rfl hended)⟩

/-- **A rearranged envelope tells the same.**

Every text that tells something spells a draft, and so does every text of JSON.  Where one text
tells something, another one tells the same if it spells the same draft but for the order of
members and for members that are unknown where they stand: any in the envelope itself, and in
the records of its snapshots those that fit. -/
theorem rearranged_tells_the_same :
    (∀ s i, Inbound.ofText s = .ok i → ∃ d, Spells s.toList (.value d)) ∧
    (∀ cs, IsJson cs .value → ∃ d, Spells cs (.value d) ∧ d.whole = true) ∧
    ∀ s s' d d' i, Spells s.toList (.value d) → Spells s'.toList (.value d') →
      Relation.ReflTransGen Rearranged d d' → Inbound.ofText s = .ok i →
      Inbound.ofText s' = .ok i := by
  refine ⟨fun s i h => exists_spells_of_ofText h, fun cs h => ?_, fun s s' d d' i hs hs' h hi => ?_⟩
  · obtain ⟨p, hp, hspells⟩ := h.exists_spells
    cases p <;> cases hp
    exact ⟨_, hspells, hspells.tree.whole⟩
  · have htells : Tells d i := (tells_iff_ofText hs).mpr hi
    rw [← tells_iff_ofText hs']
    clear hs'
    induction h with
    | refl => exact htells
    | tail _ hstep ih => exact hstep.tells ih

/-- An envelope whose members stand in another order, and those of the game too, with an unknown
member of its own, which holds a number beyond the doubles, and one of its player. -/
theorem shuffled_envelope_tells_the_same :
    let text := "\x7b\"code\":200,\"game\":\x7b\"state\":2,\"round\":0,\"players\":[]\x7d," ++
      "\"curPlayer\":\x7b\"id\":\"a\"\x7d\x7d"
    let shuffled := "\x7b\"x\":[1e999], \"curPlayer\":\x7b\"z\":[null],\"id\":\"a\"\x7d," ++
      "\"game\":\x7b\"players\":[],\"state\":2,\"round\":0\x7d, \"code\":200\x7d"
    let told : Inbound :=
      .update { Game.blank with phase := .pick } { Player.blank with id := "a" } none
    (∃ d, Spells text.toList (.value d)) ∧ (∃ d, Spells "1e999".toList (.value d)) ∧
      Inbound.ofText text = .ok told ∧ Inbound.ofText shuffled = .ok told := by
  intro text shuffled told
  obtain ⟨hspells, hjson, hsame⟩ := rearranged_tells_the_same
  have hwhole : Whole ['1'] := .digits rfl (by decide) nofun
  have hdigits : Digits ['9', '9', '9'] := by
    refine ⟨List.cons_ne_nil _ _, fun c hc => ?_⟩
    obtain rfl : c = '9' := by simpa using hc
    rfl
  have hexponent : Exponent ('e' :: ['9', '9', '9']) := .plain (.inl rfl) hdigits
  have hnumber : IsJson "1e999".toList .value := .number (.plain hwhole .none hexponent)
  have htold : Inbound.ofText text = .ok told := by
    have hoption : (Inbound.ofText text).toOption = some told := by decide +kernel
    cases hread : Inbound.ofText text <;> simp_all [Except.toOption]
  let integer (i : Int) : Draft := .number (.integer i)
  let players : Option String × Draft := (some "players", .array [])
  let state : Option String × Draft := (some "state", integer 2)
  let round : Option String × Draft := (some "round", integer 0)
  let id : Option String × Draft := (some "id", .string (some "a"))
  let z : Option String × Draft := (some "z", .array [.null])
  let code : Option String × Draft := (some "code", integer 200)
  let game (ms : List (Option String × Draft)) : Option String × Draft := (some "game", .object ms)
  let player (ms : List (Option String × Draft)) : Option String × Draft :=
    (some "curPlayer", .object ms)
  let x : Option String × Draft := (some "x", .array [.number (.scaled false 1 999)])
  have htext : Spells text.toList (.value (.object [code, game [state, round, players],
      player [id]])) := by
    have htokens : scan .gap [] text.toList = [.openBrace, .string (some "code"), .colon,
        .number (.integer 200), .comma, .string (some "game"), .colon, .openBrace,
        .string (some "state"), .colon, .number (.integer 2), .comma, .string (some "round"),
        .colon, .number (.integer 0), .comma, .string (some "players"), .colon, .openBracket,
        .closeBracket, .closeBrace, .comma, .string (some "curPlayer"), .colon, .openBrace,
        .string (some "id"), .colon, .string (some "a"), .closeBrace, .closeBrace] := by
      decide +kernel
    rw [spells_iff_tree, htokens]
    exact tree_iff_ofTokens.mpr rfl
  have hshuffled : Spells shuffled.toList (.value (.object [x, player [z, id],
      game [players, state, round], code])) := by
    have htokens : scan .gap [] shuffled.toList = [.openBrace, .string (some "x"), .colon,
        .openBracket, .number (.scaled false 1 999), .closeBracket, .comma,
        .string (some "curPlayer"), .colon, .openBrace, .string (some "z"), .colon, .openBracket,
        .null, .closeBracket, .comma, .string (some "id"), .colon, .string (some "a"),
        .closeBrace, .comma, .string (some "game"), .colon, .openBrace,
        .string (some "players"), .colon, .openBracket, .closeBracket, .comma,
        .string (some "state"), .colon, .number (.integer 2), .comma, .string (some "round"),
        .colon, .number (.integer 0), .closeBrace, .comma, .string (some "code"), .colon,
        .number (.integer 200), .closeBrace] := by
      decide +kernel
    rw [spells_iff_tree, htokens]
    exact tree_iff_ofTokens.mpr rfl
  have hz : Inserted .player false (125 + 1) (.object ([] ++ [id])) (.object ([] ++ z :: [id])) :=
    .here (by decide) (.array fun d hd => List.mem_singleton.mp hd ▸ .null)
  have hkeys : [some "state", some "round", some "players"].Nodup := by decide
  have horder : ([state, round] ++ [players]).Perm ([players] ++ [state, round]) :=
    List.perm_append_comm
  have hinserted : Rearranged
      (.object ([code, game [state, round, players]] ++ player [id] :: []))
      (.object ([code, game [state, round, players]] ++ player [z, id] :: [])) :=
    .member .player (.inserted hz)
  have hpermuted : Rearranged
      (.object ([code] ++ game [state, round, players] :: [player [z, id]]))
      (.object ([code] ++ game [players, state, round] :: [player [z, id]])) :=
    .member .game (.permuted (.here hkeys horder))
  have hunknown : Rearranged
      (.object ([code, game [players, state, round], player [z, id]] ++ []))
      (.object ([code, game [players, state, round], player [z, id]] ++ x :: [])) :=
    .inserted (by decide) rfl
  have hmoved : Rearranged (.object [code, game [players, state, round], player [z, id], x])
      (.object [x, player [z, id], game [players, state, round], code]) :=
    .permuted (List.reverse_perm _).symm
  have hrearranged := (((Relation.ReflTransGen.single hinserted).tail hpermuted).tail
    hunknown).tail hmoved
  obtain ⟨d, hd, -⟩ := hjson _ hnumber
  exact ⟨hspells text told htold, ⟨d, hd⟩, htold,
    hsame text shuffled _ _ told htext hshuffled hrearranged htold⟩

/-- What may be inserted is limited.  In a snapshot half of a surrogate pair is refused, which is
JSON, without a number and within any nesting, and so is a value with which the envelope nests
128 levels; and in the envelope itself a key with half of a surrogate pair is refused. -/
theorem rearrangement_has_limits :
    let envelope (front inside : List Char) : String :=
      String.ofList ('\x7b' :: front ++ "\"code\":200,\"game\":".toList ++ '\x7b' :: inside ++
        "\"state\":2,\"round\":0,\"players\":[]\x7d,".toList ++
        "\"curPlayer\":\x7b\"id\":\"a\"\x7d\x7d".toList)
    let nested := List.replicate 126 '[' ++ List.replicate 126 ']'
    (∃ i, Inbound.ofText (envelope [] []) = .ok i) ∧ IsJson "\"\\ud800\"".toList .value ∧
      (∃ e, Inbound.ofText (envelope [] "\"x\":\"\\ud800\",".toList) = .error e) ∧
      (∃ e, Inbound.ofText (envelope "\"\\ud800\":0,".toList []) = .error e) ∧
      ∃ e, Inbound.ofText (envelope [] ("\"x\":".toList ++ nested ++ [','])) = .error e := by
  intro envelope nested
  have htext : ∀ cs, Draft.ofText (String.ofList cs) = Draft.ofTokens (scan .gap [] cs) := by
    intro cs
    rw [Draft.ofText, tokens, String.toList_ofList]
  have htold : (Inbound.ofText (envelope [] [])).toOption.isSome = true := by decide +kernel
  have hrefused : ∀ cs,
      (Envelope.record.ofDraft (Draft.ofTokens (scan .gap [] cs)).1).toOption.isNone = true →
        ∃ e, Inbound.ofText (String.ofList cs) = .error e := by
    intro cs h
    rw [← htext] at h
    cases hread : Envelope.record.ofDraft (Draft.ofText (String.ofList cs)).1 with
    | ok e => simp [hread, Except.toOption] at h
    | error f =>
      refine ⟨.malformed f, ?_⟩
      rw [Inbound.ofText, Envelope.ofText, Draft.readText]
      simp only [hread]
      rfl
  have hhex : HexDigit 'd' ∧ HexDigit '8' ∧ HexDigit '0' :=
    ⟨.inr (.inl (by decide)), .inl rfl, .inl rfl⟩
  have hhalf : Inside ['\\', 'u', 'd', '8', '0', '0'] :=
    .code hhex.1 hhex.2.1 hhex.2.2 hhex.2.2 .nil
  refine ⟨?_, .string ⟨_, hhalf, rfl⟩, ?_, ?_, ?_⟩
  · cases hread : Inbound.ofText (envelope [] []) with
    | error e => simp [hread, Except.toOption] at htold
    | ok i => exact ⟨i, rfl⟩
  · exact hrefused _ (by decide +kernel)
  · exact hrefused _ (by decide +kernel)
  · exact hrefused _ (by decide +kernel)

end QuizClient
