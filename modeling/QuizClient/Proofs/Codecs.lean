import Mathlib.Data.List.Perm.Basic
import Mathlib.Logic.Function.Conjugate
import QuizClient.Proofs.Written

/-!
# What a codec writes it reads back

A codec carries a value if what it writes for the value nests no deeper than a limit and,
kept in key order, is read back as the value.  Each way to put codecs together carries what
its parts carry.

A record is read member by member.  Key order is not the order of the fields, so for a
record to be carried the fields must not get in each other's way: each is found under its
key, and storing two of them in either order gives the same record.

## Main definitions

* `Codec.Carries` — the value survives being written, kept and read.
* `Record.Takes` — a record takes up a member by changing the record so far.
* `Record.Keeps`, `Member.Keeps` — storing a field does not break a property.
* `Member.Returns` — a member stores what it writes.
* `Shape.Distinct` — no member stands for the key of a later one.

## Main results

* `list_carries`, `optional_carries`, `orBlank_carries`, `dictionary_carries` — codecs
  put together from codecs.
* `foldlM_member` — reading members that a record takes up.
* `Keeps.ofValue` — what no field breaks holds of every record that is read.
* `Shape.codec_carries` — **a shape carries a record if its members carry the fields.**
-/

namespace QuizClient.Json

/-! ### Codecs of scalars -/

namespace Codec

/-- What is written for a value nests at most `depth` levels and, kept in key order, is read
back as the value. -/
structure Carries {α : Type} (c : Codec α) (depth : Nat) (a : α) : Prop where
  /-- What is written can be kept. -/
  fits : (c.write a).Fits depth
  /-- What is kept is read back. -/
  read : c.read (c.write a).sorted = .ok a

/-- The codec never writes `null`. -/
def NeverNull {α : Type} (c : Codec α) : Prop := ∀ a, c.write a ≠ .null

theorem string_neverNull : string.NeverNull := by
  intro s h
  cases h

theorem list_neverNull {α : Type} (c : Codec α) : c.list.NeverNull := by
  intro xs h
  cases h

theorem dictionary_neverNull {α : Type} (c : Codec α) : c.dictionary.NeverNull := by
  intro d h
  cases h

variable {α : Type} {c : Codec α} {depth : Nat}

theorem Carries.mono {depth' : Nat} {a : α} (h : c.Carries depth a) (hle : depth ≤ depth') :
    c.Carries depth' a :=
  ⟨h.fits.mono hle, h.read⟩

theorem string_carries (depth : Nat) (s : String) : string.Carries depth s := ⟨.string s, rfl⟩

theorem bool_carries (depth : Nat) (b : Bool) : bool.Carries depth b := ⟨.bool b, rfl⟩

theorem signed_carries (depth : Nat) (i : Int64) : signed.Carries depth i := by
  have hlow : Int64.minValue.toInt ≤ i.toInt := by
    rw [Int64.toInt_minValue]
    exact i.le_toInt
  have hhigh : i.toInt ≤ Int64.maxValue.toInt := by
    rw [Int64.toInt_maxValue]
    exact Int.le_sub_one_of_lt i.toInt_lt
  have hmax : Int64.maxValue.toInt < UInt64.size := by decide
  refine ⟨.integer hlow (Int.lt_of_le_of_lt hhigh hmax), ?_⟩
  show Found.toSigned? (.number (.integer i.toInt)) = .ok i
  rw [Found.toSigned?, if_pos ⟨hlow, hhigh⟩, Int64.ofInt_toInt]

theorem toUnsigned?_ofNat {n : Nat} (h : n < UInt64.size) :
    Found.toUnsigned? (.number (.integer n)) = .ok (UInt64.ofNat n) := by
  have hfits : 0 ≤ (n : Int) ∧ (n : Int) < UInt64.size := by omega
  rw [Found.toUnsigned?, if_pos hfits, Int.toNat_natCast]

theorem fits_ofNat {n : Nat} (h : n < UInt64.size) (depth : Nat) :
    (Value.ofInt n).Fits depth := by
  have hlow : Int64.minValue.toInt ≤ 0 := by decide
  exact .integer (Int.le_trans hlow (Int.natCast_nonneg n)) (Int.ofNat_lt.mpr h)

/-! ### Codecs put together -/

theorem mapM_map_ok {β ε : Type} {f : β → Except ε α} {g : α → β} {xs : List α}
    (h : ∀ x ∈ xs, f (g x) = .ok x) : (xs.map g).mapM f = .ok xs := by
  induction xs with
  | nil => rfl
  | cons x xs ih =>
    obtain ⟨hx, hxs⟩ := List.forall_mem_cons.mp h
    rw [List.map_cons, List.mapM_cons, hx, ih hxs]
    rfl

theorem sorted_ne_null {v : Value} (h : v ≠ .null) : v.sorted ≠ .null := by
  cases v <;> simp_all [Value.sorted]

theorem list_carries {xs : List α} (h : ∀ a ∈ xs, c.Carries depth a) :
    c.list.Carries (depth + 1) xs where
  fits := by
    refine .array fun v hv => ?_
    obtain ⟨a, ha, rfl⟩ := List.mem_map.mp hv
    exact (h a ha).fits
  read := by
    show List.mapM c.read (Value.sortedItems (xs.map c.write)) = .ok xs
    rw [Value.sortedItems_eq_map, List.map_map]
    exact mapM_map_ok fun a ha => (h a ha).read

theorem optional_carries (hc : c.NeverNull) {o : Option α} (h : ∀ a ∈ o, c.Carries depth a) :
    c.optional.Carries depth o := by
  cases o with
  | none => exact ⟨.null, rfl⟩
  | some a =>
    have ha := h a rfl
    refine ⟨ha.fits, ?_⟩
    have hread : ∀ v ≠ Value.null, c.optional.read v = some <$> c.read v := by
      intro v hv
      cases v <;> first | rfl | exact absurd rfl hv
    show c.optional.read (c.write a).sorted = .ok (some a)
    rw [hread _ (sorted_ne_null (hc a)), ha.read]
    rfl

theorem orBlank_carries (hc : c.NeverNull) {blank a : α} (h : c.Carries depth a) :
    (c.orBlank blank).Carries depth a := by
  refine ⟨h.fits, ?_⟩
  have hread : ∀ v ≠ Value.null, (c.orBlank blank).read v = c.read v := by
    intro v hv
    cases v <;> first | rfl | exact absurd rfl hv
  exact (hread _ (sorted_ne_null (hc a))).trans h.read

/-- A list for which `null` also stands. -/
theorem listOrBlank_carries {blank xs : List α} (h : ∀ a ∈ xs, c.Carries depth a) :
    (c.list.orBlank blank).Carries (depth + 1) xs :=
  orBlank_carries (list_neverNull c) (list_carries h)

theorem dictionary_carries {d : Dictionary α} (h : ∀ e ∈ d.entries, c.Carries depth e.2) :
    c.dictionary.Carries (depth + 1) d where
  fits := by
    refine .object fun m hm => ?_
    obtain ⟨e, he, rfl⟩ := List.mem_map.mp hm
    exact (h e he).fits
  read := by
    -- the entries are in key order already
    have hsorted : Keyed.Sorted (d.entries.map fun e => (e.1, (c.write e.2).sorted)) :=
      List.pairwise_map.mpr d.sorted
    show Dictionary.ofList <$> List.mapM (fun m => (m.1, ·) <$> c.read m.2) (Keyed.ofList
      (Value.sortedMembers (d.entries.map fun e => (e.1, c.write e.2)))) = .ok d
    rw [Value.sortedMembers_eq_map, List.map_map]
    show Dictionary.ofList <$> List.mapM (fun m => (m.1, ·) <$> c.read m.2) (Keyed.ofList
      (d.entries.map fun e => (e.1, (c.write e.2).sorted))) = .ok d
    rw [Keyed.ofList_of_sorted hsorted, mapM_map_ok fun e he => ?_]
    · exact congrArg Except.ok (Dictionary.ofList_entries d)
    · show (e.1, ·) <$> c.read (c.write e.2).sorted = .ok e
      rw [(h e he).read]
      rfl

end Codec

/-! ### Reading members -/

theorem Field.answers_key {ι σ : Type} (f : Field ι σ) : f.answers f.key = true := by
  simp [Field.answers]

namespace Record

variable {ι σ : Type}

/-- The record takes up an input under a key: the field for the key stores it, which changes
the record so far by `put`. -/
def Takes (r : Record ι σ) (e : String × ι) (put : σ → σ) : Prop :=
  ∃ f, r.fields.find? (·.answers e.1) = some f ∧ f.key = e.1 ∧
    ∀ s, f.store e.2 s = .ok (put s)

theorem member_of_takes {r : Record ι σ} {e : String × ι} {put : σ → σ} (h : r.Takes e put)
    (skip : ι → Except Fault Unit) {p : Progress σ} (hseen : e.1 ∉ p.seen) :
    r.member skip p e.1 e.2 = .ok ⟨put p.value, e.1 :: p.seen⟩ := by
  obtain ⟨f, hf, hkey, hstore⟩ := h
  have hfresh : p.seen.contains f.key = false := by simpa [hkey] using hseen
  rw [member, hf, ← hkey]
  simp only [hfresh, hstore]
  rfl

/-- **Members that a record takes up are read one by one**, under distinct keys. -/
theorem foldlM_member {r : Record ι σ} {es : List (String × ι)} {puts : List (σ → σ)}
    (h : List.Forall₂ r.Takes es puts) (skip : ι → Except Fault Unit) {p : Progress σ}
    (hkeys : (es.map Prod.fst).Nodup) (hseen : ∀ e ∈ es, e.1 ∉ p.seen) :
    es.foldlM (fun p e => r.member skip p e.1 e.2) p
      = .ok ⟨puts.foldl (fun s put => put s) p.value, (es.map Prod.fst).reverse ++ p.seen⟩ := by
  induction h generalizing p with
  | nil => rfl
  | @cons e put es puts he _ ih =>
    obtain ⟨hnew, hkeys⟩ := List.nodup_cons.mp hkeys
    obtain ⟨hfresh, hseen⟩ := List.forall_mem_cons.mp hseen
    have hlater : ∀ e' ∈ es, e'.1 ∉ e.1 :: p.seen := by
      intro e' he' hmem
      rcases List.mem_cons.mp hmem with heq | hmem
      · exact hnew (heq ▸ List.mem_map_of_mem he')
      · exact hseen e' he' hmem
    rw [List.foldlM_cons, member_of_takes he skip hfresh]
    show List.foldlM _ (⟨put p.value, e.1 :: p.seen⟩ : Progress σ) es = _
    rw [ih hkeys hlater]
    simp

/-- A record of which every required field has come is done. -/
theorem finish_of_seen {r : Record ι σ} {p : Progress σ}
    (h : ∀ f ∈ r.fields, f.required = true → f.key ∈ p.seen) : r.finish p = .ok p.value := by
  have hnone : r.fields.find? (fun f => f.required && !p.seen.contains f.key) = none := by
    simpa using h
  rw [finish, hnone]

/-- A record that is done has its required fields. -/
theorem seen_of_finish {r : Record ι σ} {p : Progress σ} {a : σ} (h : r.finish p = .ok a) :
    a = p.value ∧ ∀ g ∈ r.fields, g.required = true → g.key ∈ p.seen := by
  unfold Record.finish at h
  split at h
  · cases h
  · next hnone =>
    cases h
    exact ⟨rfl, by simpa using hnone⟩

theorem foldlM_finish {r : Record ι σ} {es : List (String × ι)} {puts : List (σ → σ)}
    (h : List.Forall₂ r.Takes es puts) (skip : ι → Except Fault Unit)
    (hkeys : (es.map Prod.fst).Nodup)
    (hrequired : ∀ f ∈ r.fields, f.required = true → f.key ∈ es.map Prod.fst) :
    es.foldlM (fun p e => r.member skip p e.1 e.2) r.start >>= r.finish
      = .ok (puts.foldl (fun s put => put s) r.blank) := by
  have hread := foldlM_member h skip (p := r.start) hkeys (fun _ _ => List.not_mem_nil)
  have hdone : ∀ f ∈ r.fields, f.required = true →
      f.key ∈ (es.map Prod.fst).reverse ++ r.start.seen := by
    intro f hf hreq
    rw [List.mem_append, List.mem_reverse]
    exact .inl (hrequired f hf hreq)
  rw [hread]
  exact finish_of_seen hdone

/-- **An object is read as the record that its members make** of the blank one, if the
record takes up all of them and every required field is among them. -/
theorem ofValue_object {r : Record Value σ} {es : List (String × Value)} {puts : List (σ → σ)}
    (h : List.Forall₂ r.Takes es puts) (hkeys : (es.map Prod.fst).Nodup)
    (hrequired : ∀ f ∈ r.fields, f.required = true → f.key ∈ es.map Prod.fst) :
    r.ofValue (.object es) = .ok (puts.foldl (fun s put => put s) r.blank) :=
  foldlM_finish h (fun _ => .ok ()) hkeys hrequired

/-- A draft of an object is read in text order, by the same rules. -/
theorem ofDraft_object {r : Record Draft σ} {es : List (String × Draft)} {puts : List (σ → σ)}
    (h : List.Forall₂ r.Takes es puts) (hkeys : (es.map Prod.fst).Nodup)
    (hrequired : ∀ f ∈ r.fields, f.required = true → f.key ∈ es.map Prod.fst) :
    r.ofDraft (.object (es.map fun e => (some e.1, e.2)))
      = .ok (puts.foldl (fun s put => put s) r.blank) := by
  rw [ofDraft, List.foldlM_map]
  exact foldlM_finish h Draft.skip hkeys hrequired

/-! ### What reading keeps -/

/-- A property that no field of the record breaks when it is stored. -/
def Keeps (r : Record ι σ) (P : σ → Prop) : Prop :=
  ∀ f ∈ r.fields, ∀ x s t, P s → f.store x s = .ok t → P t

variable {P : σ → Prop}

theorem Keeps.member {r : Record ι σ} (hr : r.Keeps P) {skip : ι → Except Fault Unit}
    {p p' : Progress σ} {key : String} {x : ι} (hp : P p.value)
    (h : r.member skip p key x = .ok p') : P p'.value := by
  unfold Record.member at h
  split at h
  · obtain ⟨_, -, rfl⟩ := exists_of_map_eq_ok h
    exact hp
  · next f hf =>
    split at h
    · cases h
    · obtain ⟨t, ht, rfl⟩ := exists_of_map_eq_ok h
      exact hr f (List.mem_of_find?_eq_some hf) x p.value t hp ht

theorem Keeps.foldlM {r : Record ι σ} (hr : r.Keeps P) {skip : ι → Except Fault Unit}
    {es : List (String × ι)} {p p' : Progress σ} (hp : P p.value)
    (h : es.foldlM (fun p e => r.member skip p e.1 e.2) p = .ok p') : P p'.value := by
  induction es generalizing p with
  | nil =>
    cases h
    exact hp
  | cons e es ih =>
    obtain ⟨q, hq, h⟩ := exists_of_bind_eq_ok h
    exact ih (hr.member hp hq) h

theorem Keeps.items {r : Record ι σ} {excess : Fault} {fs : List (Field ι σ)}
    (hfs : ∀ f ∈ fs, ∀ x s t, P s → f.store x s = .ok t → P t) {i : Nat} {xs : List ι} {s t : σ}
    (hs : P s) (h : r.items excess fs i xs s = .ok t) : P t := by
  induction fs generalizing i xs s with
  | nil =>
    cases xs with
    | nil =>
      cases h
      exact hs
    | cons x xs => cases h
  | cons f fs ih =>
    obtain ⟨hf, hfs⟩ := List.forall_mem_cons.mp hfs
    cases xs with
    | nil =>
      unfold Record.items at h
      split at h
      · cases h
      · exact ih hfs hs h
    | cons x xs =>
      obtain ⟨s', hs', h⟩ := exists_of_bind_eq_ok h
      exact ih hfs (hf x s s' hs hs') h

/-- **What the blank record has and no field breaks, every record that is read has**, from
an object or from an array. -/
theorem Keeps.ofValue {r : Record Value σ} (hr : r.Keeps P) (hblank : P r.blank) {v : Value}
    {s : σ} (h : r.ofValue v = .ok s) : P s := by
  cases v with
  | object ms =>
    obtain ⟨p, hp, h⟩ := exists_of_bind_eq_ok h
    have hvalue : P p.value := hr.foldlM hblank hp
    unfold finish at h
    split at h
    · cases h
    · cases h
      exact hvalue
  | array vs => exact Keeps.items hr hblank h
  | _ => cases h

end Record

theorem commute_iff_apply {σ : Type} {f g : σ → σ} :
    Function.Commute f g ↔ ∀ s, f (g s) = g (f s) := .rfl

/-- Changes of which no two get in each other's way come to the same in any order. -/
theorem foldl_put_perm {σ : Type} {puts puts' : List (σ → σ)} (hperm : puts.Perm puts')
    (h : puts.Pairwise Function.Commute) (s : σ) :
    puts'.foldl (fun s put => put s) s = puts.foldl (fun s put => put s) s := by
  have hany := List.Pairwise.forall_of_forall_of_flip (fun f _ => Function.Commute.refl f) h
    (h.imp Function.Commute.symm)
  exact (hperm.foldl_eq' (fun f hf g hg t => hany hg hf t) s).symm

/-! ### Shapes -/

/-- The member can keep what it writes for the record `a`, and stores it by `put`. -/
structure Member.Returns {σ : Type} (depth : Nat) (a : σ) (m : Member σ) (put : σ → σ) : Prop where
  /-- What is written can be kept. -/
  fits : (m.fetch a).Fits depth
  /-- What is kept is stored. -/
  store : ∀ s, m.store (m.fetch a).sorted s = .ok (put s)

/-- A field is put back as it was. -/
theorem Codec.Carries.member {α σ : Type} {c : Codec α} {depth : Nat} {a : σ} {get : σ → α}
    (h : c.Carries depth (get a)) {key : String} {set : α → σ → σ} :
    (c.member key get set).Returns depth a (set (get a)) := by
  refine ⟨h.fits, fun s => ?_⟩
  show (set · s) <$> c.read (c.write (get a)).sorted = _
  rw [h.read]
  rfl

theorem Member.Returns.needed {σ : Type} {depth : Nat} {a : σ} {m : Member σ} {put : σ → σ}
    (h : m.Returns depth a put) : m.needed.Returns depth a put :=
  ⟨h.fits, h.store⟩

theorem Member.Returns.orKey {σ : Type} {depth : Nat} {a : σ} {m : Member σ} {put : σ → σ}
    {key : String} (h : m.Returns depth a put) : (m.orKey key).Returns depth a put :=
  ⟨h.fits, h.store⟩

namespace Shape

variable {σ : Type} {s : Shape σ}

theorem codec_neverNull (s : Shape σ) : s.codec.NeverNull := by
  intro a h
  cases h

/-- No member stands for the key of a later one. -/
def Distinct (s : Shape σ) : Prop :=
  s.members.Pairwise fun m m' => m.answers m'.key = false

instance (s : Shape σ) : Decidable s.Distinct :=
  inferInstanceAs (Decidable (s.members.Pairwise fun m m' => m.answers m'.key = false))

/-- Of fields of which none stands for the key of a later one, the one with a key is found
under it. -/
theorem find?_answers {ι : Type} {fs : List (Field ι σ)}
    (h : fs.Pairwise fun f g => f.answers g.key = false) {f : Field ι σ} (hf : f ∈ fs) :
    fs.find? (·.answers f.key) = some f := by
  induction fs with
  | nil => simp at hf
  | cons g fs ih =>
    obtain ⟨hg, hfs⟩ := List.pairwise_cons.mp h
    rcases List.mem_cons.mp hf with rfl | hmem
    · exact List.find?_cons_of_pos (Field.answers_key f)
    · rw [List.find?_cons_of_neg (by simp [hg f hmem])]
      exact ih hfs hmem

theorem Distinct.keys_nodup (h : s.Distinct) : (s.members.map (·.key)).Nodup := by
  refine List.pairwise_map.mpr (h.imp fun {m m'} hne heq => ?_)
  rw [← heq, Field.answers_key] at hne
  cases hne

/-- The record of a shape takes up what a member returns. -/
theorem Distinct.takes (h : s.Distinct) {depth : Nat} {a : σ} {m : Member σ} (hm : m ∈ s.members)
    {put : σ → σ} (hput : m.Returns depth a put) :
    s.record.Takes (m.key, (m.fetch a).sorted) put := by
  have hfields : s.record.fields.Pairwise fun f g => f.answers g.key = false :=
    List.pairwise_map.mpr h
  exact ⟨m.toField, find?_answers hfields (List.mem_map_of_mem hm), rfl, hput.store⟩

/-- What the members of a shape return is taken up by its record. -/
theorem Distinct.forall₂_takes (hs : s.Distinct) {depth : Nat} {a : σ} {puts : List (σ → σ)}
    (h : List.Forall₂ (Member.Returns depth a) s.members puts) :
    List.Forall₂ s.record.Takes (s.members.map fun m => (m.key, (m.fetch a).sorted)) puts := by
  have hmem : List.Forall₂ (fun m put => m ∈ s.members ∧ m.Returns depth a put) s.members puts :=
    (List.forall₂_and_left _ _).mpr ⟨fun _ hm => hm, h⟩
  exact List.forall₂_map_left_iff.mpr (hmem.imp fun _ _ hm => hs.takes hm.1 hm.2)

/-- **A shape carries a record if its members carry the fields**, none of them in the way of
another. -/
theorem codec_carries (hs : s.Distinct) {depth : Nat} {a : σ} {puts : List (σ → σ)}
    (h : List.Forall₂ (Member.Returns depth a) s.members puts)
    (hcomm : puts.Pairwise Function.Commute)
    (hall : puts.foldl (fun t put => put t) s.blank = a) : s.codec.Carries (depth + 1) a where
  fits := by
    have hfits : ∀ m ∈ s.members, (m.fetch a).Fits depth :=
      ((List.forall₂_and_left _ _).mp (h.imp fun m put hm => ⟨hm.fits, hm⟩)).1
    refine .object fun e he => ?_
    obtain ⟨m, hm, rfl⟩ := List.mem_map.mp he
    exact hfits m hm
  read := by
    -- the members stand in key order, where their changes come to the same
    let written := s.members.map fun m => (m.key, (m.fetch a).sorted)
    have hkeys : written.map Prod.fst = s.members.map (·.key) := List.map_map
    have hperm : (Keyed.ofList written).Perm written :=
      Keyed.ofList_perm (hkeys ▸ hs.keys_nodup)
    obtain ⟨puts', htakes, hputs⟩ := List.perm_comp_forall₂ hperm (hs.forall₂_takes h)
    have hnodup : ((Keyed.ofList written).map Prod.fst).Nodup :=
      (Keyed.sorted_ofList written).nodup
    have hrequired : ∀ f ∈ s.record.fields, f.required = true →
        f.key ∈ (Keyed.ofList written).map Prod.fst := by
      intro f hf _
      obtain ⟨m, hm, rfl⟩ := List.mem_map.mp hf
      rw [(hperm.map Prod.fst).mem_iff, hkeys]
      exact List.mem_map_of_mem hm
    have hread := Record.ofValue_object htakes hnodup hrequired
    rw [foldl_put_perm hputs.symm hcomm s.record.blank] at hread
    show s.record.ofValue (.object (Keyed.ofList (Value.sortedMembers
      (s.members.map fun m => (m.key, m.fetch a))))) = .ok a
    rw [Value.sortedMembers_eq_map, List.map_map]
    exact hread.trans (congrArg Except.ok hall)

end Shape

/-! ### What a shape keeps -/

/-- The member does not break a property when it is stored. -/
def Member.Keeps {σ : Type} (P : σ → Prop) (m : Member σ) : Prop :=
  ∀ v s t, P s → m.store v s = .ok t → P t

theorem Codec.member_keeps {α σ : Type} {c : Codec α} {key : String} {get : σ → α}
    {set : α → σ → σ} {P : σ → Prop} (h : ∀ a s, (∃ v, c.read v = .ok a) → P s → P (set a s)) :
    (c.member key get set).Keeps P := by
  intro v s t hs hstore
  obtain ⟨a, ha, rfl⟩ := exists_of_map_eq_ok hstore
  exact h a s ⟨v, ha⟩ hs

theorem Member.Keeps.needed {σ : Type} {m : Member σ} {P : σ → Prop} (h : m.Keeps P) :
    m.needed.Keeps P := h

theorem Member.Keeps.orKey {σ : Type} {m : Member σ} {P : σ → Prop} {key : String}
    (h : m.Keeps P) : (m.orKey key).Keeps P := h

/-- What every member keeps, the record of the shape keeps. -/
theorem Shape.keeps_of_forall {σ : Type} {s : Shape σ} {P : σ → Prop}
    (h : ∀ m ∈ s.members, m.Keeps P) : s.record.Keeps P := by
  intro f hf
  obtain ⟨m, hm, rfl⟩ := List.mem_map.mp hf
  exact h m hm

end QuizClient.Json
