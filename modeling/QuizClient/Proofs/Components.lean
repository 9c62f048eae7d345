import QuizClient.Proofs.Rearrangement

/-!
# Records put together from components

A record of which every field may be left out, and is read into a component of its own, is
read from a tree or not, and what is read is told by the fields one by one: each component
holds what stands in the place of its field, and the default if nothing does.  The fields are
independent of each other, in what they read and in what they fall back to.

Reading goes along the members in text order and fails at the first that is at fault.  So a
count along the members decides whether it comes to the end: a key has come at most once in
front of a member and from it on, and moves from the second part to the first.

## Main definitions

* `Cell` — a component of a record, with the field that is read into it.
* `Record.Consists` — a record put together from components.
* `Draft.Suits` — a tree that a record with some keys can be read from.

## Main results

* `Consists.part` — a component holds what stands in the place of its field.
* `Consists.exists_ofDraft` — a record is read if its tree suits and every part can be read.
* `Consists.ofDraft_eq_ok_iff` — **what a record is read from and to.**
* `Consists.part_iff` — the same for a record that is a part of another one.
-/

namespace QuizClient.Json

/-- A component of a record, with the field that is read into it. -/
structure Cell (σ : Type) : Type 1 where
  /-- What the component holds. -/
  {α : Type}
  /-- The key of the field. -/
  key : String
  /-- Reads the field. -/
  read : Draft → Except Fault α
  /-- The component. -/
  get : σ → α
  /-- The record with another component. -/
  set : α → σ → σ

/-- The field of a component. -/
def Cell.field {σ : Type} (c : Cell σ) : Field Draft σ := Draft.field c.key c.read c.set

theorem Cell.store_eq_ok {σ : Type} (c : Cell σ) {d : Draft} {a : c.α} (h : c.read d = .ok a)
    (s : σ) : c.field.store d s = .ok (c.set a s) := by
  show (c.set · s) <$> c.read d = _
  rw [h]
  rfl

/-- A record put together from components. -/
structure Record.Consists {σ : Type} (r : Record Draft σ) (cs : List (Cell σ)) : Prop where
  /-- The fields are those of the components. -/
  fields : r.fields = cs.map Cell.field
  /-- No two of them have one key. -/
  distinct : (cs.map Cell.key).Nodup
  /-- A component holds what it was set to. -/
  get_set : ∀ c ∈ cs, ∀ a s, c.get (c.set a s) = a
  /-- A component of another key does not notice. -/
  frame : ∀ c ∈ cs, ∀ c' ∈ cs, c'.key ≠ c.key → ∀ a s, c.get (c'.set a s) = c.get s
  /-- There is nothing else in the record. -/
  ext : ∀ s t, (∀ c ∈ cs, c.get s = c.get t) → s = t

/-- A tree that a record with some keys can be read from: an object in which every key is a
text and none of them comes twice, or an array that is not longer than they are. -/
def Draft.Suits (keys : List String) : Draft → Prop
  | .object ms => (∀ m ∈ ms, m.1 ≠ none) ∧ ∀ key ∈ keys, (ms.map Prod.fst).count (some key) ≤ 1
  | .array ds => ds.length ≤ keys.length
  | _ => False

/-- A part reads as one thing only. -/
theorem Part.unique {α : Type} {read : Draft → Except Fault α} {blank a b : α} {o : Option Draft}
    (ha : Part read blank a o) (hb : Part read blank b o) : a = b := by
  cases o with
  | none => exact Eq.trans ha (Eq.symm hb)
  | some d => exact Except.ok.inj (Eq.trans (Eq.symm ha) hb)

theorem mem_of_lookup {ms : List (Option String × Draft)} {key : Option String} {t : Draft}
    (h : ms.lookup key = some t) : (key, t) ∈ ms := by
  obtain ⟨before, after, rfl, -⟩ := List.lookup_eq_some_iff.mp h
  simp

/-- A key that moves from the members to those that have come is counted all the same. -/
theorem count_moved (key key' : String) (keys : List (Option String)) (seen : List String) :
    keys.count (some key') + (key :: seen).count key' =
      (some key :: keys).count (some key') + seen.count key' := by
  by_cases h : key = key'
  · simp [h]
    omega
  · simp [h]

/-- A member is found behind another one, if its key does not come twice. -/
theorem lookup_cons_of_once {ms : List (Option String × Draft)} {key key' : String} {d t : Draft}
    (honce : (some key :: ms.map Prod.fst).count (some key') ≤ 1)
    (h : ms.lookup (some key') = some t) : ((some key, d) :: ms).lookup (some key') = some t := by
  have hne : key' ≠ key := by
    rintro rfl
    have hpos : 0 < (ms.map Prod.fst).count (some key') :=
      List.count_pos_iff.mpr (List.mem_map_of_mem (f := Prod.fst) (mem_of_lookup h))
    rw [List.count_cons_self] at honce
    omega
  have hskip : (some key' == some key) = false := by simpa using hne
  rw [List.lookup_cons, hskip]
  exact h

theorem Draft.whole_of_mem_members {ms : List (Option String × Draft)}
    (h : Draft.wholeMembers ms = true) : ∀ m ∈ ms, m.2.whole = true := by
  induction ms with
  | nil => nofun
  | cons m ms ih =>
    obtain ⟨hm, hms⟩ := Bool.and_eq_true_iff.mp h
    exact List.forall_mem_cons.mpr ⟨hm, ih hms⟩

theorem Draft.whole_of_mem_items {ds : List Draft} (h : Draft.wholeItems ds = true) :
    ∀ d ∈ ds, d.whole = true := by
  induction ds with
  | nil => nofun
  | cons d ds ih =>
    obtain ⟨hd, hds⟩ := Bool.and_eq_true_iff.mp h
    exact List.forall_mem_cons.mpr ⟨hd, ih hds⟩

/-- A part of a tree that does not break off does not break off. -/
theorem Draft.whole_of_part {d t : Draft} {position : Nat} {key : String} (h : d.whole = true)
    (ht : d.part position key = some t) : t.whole = true := by
  cases d with
  | object ms => exact Draft.whole_of_mem_members h _ (mem_of_lookup ht)
  | array ds => exact Draft.whole_of_mem_items h _ (List.mem_of_getElem? ht)
  | _ => cases ht

namespace Record

variable {σ : Type} {r : Record Draft σ} {cs : List (Cell σ)}

/-! ### Items of an array -/

/-- There are not more items than fields. -/
theorem length_of_items {fs : List (Field Draft σ)} {excess : Fault} {i : Nat} {ds : List Draft}
    {s t : σ} (h : r.items excess fs i ds s = .ok t) : ds.length ≤ fs.length := by
  induction ds generalizing fs i s with
  | nil => exact Nat.zero_le _
  | cons d ds ih =>
    cases fs with
    | nil => cases h
    | cons f fs =>
      obtain ⟨s', -, hrest⟩ := exists_of_bind_eq_ok h
      exact Nat.succ_le_succ (ih hrest)

/-- **Items are read** if there are not more of them than fields, and each can be read. -/
theorem exists_items {excess : Fault} {i : Nat} {ds : List Draft} {s : σ}
    (hlength : ds.length ≤ cs.length)
    (hread : ∀ (j : Nat) (c : Cell σ) (t : Draft), cs[j]? = some c → ds[j]? = some t →
      ∃ a, c.read t = .ok a) :
    ∃ t, r.items excess (cs.map Cell.field) i ds s = .ok t := by
  induction cs generalizing i ds s with
  | nil =>
    obtain rfl := List.eq_nil_of_length_eq_zero (Nat.le_zero.mp hlength)
    exact ⟨s, rfl⟩
  | cons c cs ih =>
    cases ds with
    | nil => exact ih (Nat.zero_le _) (fun j c t _ ht => by cases ht)
    | cons d ds =>
      obtain ⟨a, ha⟩ := hread 0 c d rfl rfl
      obtain ⟨t, ht⟩ := ih (i := i + 1) (s := c.set a s) (Nat.le_of_succ_le_succ hlength)
        fun j c' t' hc' ht' => hread (j + 1) c' t' hc' ht'
      refine ⟨t, ?_⟩
      rw [List.map_cons, Record.items, c.store_eq_ok ha]
      exact ht

/-! ### Fields -/

namespace Consists

/-- The field of a component is found under its key. -/
theorem find?_key (h : r.Consists cs) {c : Cell σ} (hc : c ∈ cs) :
    r.fields.find? (·.answers c.key) = some c.field := by
  have hdistinct : (cs.map Cell.field).Pairwise fun f g => f.answers g.key = false := by
    refine List.pairwise_map.mpr ((List.pairwise_map.mp h.distinct).imp fun {c c'} hne => ?_)
    simpa [Field.answers, Cell.field, Draft.field] using hne
  rw [h.fields]
  exact Shape.find?_answers hdistinct (List.mem_map_of_mem hc)

/-- A field that is found under a key is the one with that key. -/
theorem exists_cell (h : r.Consists cs) {key : String} {f : Field Draft σ}
    (hf : r.fields.find? (·.answers key) = some f) : ∃ c ∈ cs, c.field = f ∧ c.key = key := by
  have hmem := List.mem_of_find?_eq_some hf
  have hanswers := List.find?_some hf
  rw [h.fields] at hmem
  obtain ⟨c, hc, rfl⟩ := List.mem_map.mp hmem
  refine ⟨c, hc, rfl, ?_⟩
  simpa [Field.answers, Cell.field, Draft.field] using hanswers

/-- **A component holds what stands in the place of its field**, or its default. -/
theorem part (h : r.Consists cs) {i : Nat} {c : Cell σ} (hi : cs[i]? = some c) {d : Draft} {a : σ}
    (ha : r.ofDraft d = .ok a) :
    Part c.read (c.get r.blank) (c.get a) (d.part i c.key) := by
  have hc : c ∈ cs := List.mem_of_getElem? hi
  have hplain : ∀ g ∈ r.fields, g.alias? = none := by
    rw [h.fields]
    intro g hg
    obtain ⟨c', -, rfl⟩ := List.mem_map.mp hg
    rfl
  have hdistinct : (r.fields.map (·.key)).Nodup := by
    rw [h.fields, List.map_map]
    exact h.distinct
  have hplace : r.fields[i]? = some c.field := by
    rw [h.fields, List.getElem?_map, hi, Option.map_some]
  refine (Record.part_of_ofDraft hplain hdistinct ha i hplace (h.find?_key hc) (fun _ _ => rfl)
    (h.get_set c hc) ?_).1
  -- what another field stores goes into its own component
  rw [h.fields]
  intro g hg hne d s t ht
  obtain ⟨c', hc', rfl⟩ := List.mem_map.mp hg
  obtain ⟨b, -, rfl⟩ := exists_of_map_eq_ok ht
  exact h.frame c hc c' hc' hne b s

/-! ### Members of an object -/

/-- Members that are read have keys, none of which comes twice. -/
theorem keys_of_members (h : r.Consists cs) {ms : List (Option String × Draft)}
    {p q : Progress σ} (hseen : p.seen.Nodup) (hq : ms.foldlM r.step p = .ok q) :
    (∀ m ∈ ms, m.1 ≠ none) ∧
      ∀ c ∈ cs, (ms.map Prod.fst).count (some c.key) + p.seen.count c.key ≤ 1 := by
  induction ms generalizing p with
  | nil =>
    have honce := List.nodup_iff_count_le_one.mp hseen
    exact ⟨nofun, fun c _ => by simpa using honce c.key⟩
  | cons m ms ih =>
    obtain ⟨_, d⟩ := m
    obtain ⟨key, p', rfl, hstep, hrest⟩ := foldlM_cons_eq_ok_iff.mp hq
    cases hstep with
    | passed unknown whole =>
      obtain ⟨hkeys, honce⟩ := ih hseen hrest
      refine ⟨List.forall_mem_cons.mpr ⟨Option.some_ne_none key, hkeys⟩, fun c hc => ?_⟩
      -- no field has this key, so the counts are those behind it
      have hne : key ≠ c.key := by
        rintro rfl
        rw [h.find?_key hc] at unknown
        cases unknown
      have hcount := honce c hc
      simpa [List.count_cons, hne] using hcount
    | @stored f t found fresh store =>
      obtain ⟨c₀, hc₀, rfl, rfl⟩ := h.exists_cell found
      have hseen' : (c₀.key :: p.seen).Nodup := List.nodup_cons.mpr ⟨fresh, hseen⟩
      obtain ⟨hkeys, honce⟩ := ih hseen' hrest
      refine ⟨List.forall_mem_cons.mpr ⟨Option.some_ne_none _, hkeys⟩, fun c hc => ?_⟩
      have hcount := honce c hc
      rwa [count_moved] at hcount

/-- **Members are read** if they have keys, none of which comes twice, and every field among
them can be read. -/
theorem exists_members (h : r.Consists cs) {ms : List (Option String × Draft)} {p : Progress σ}
    (hwhole : Draft.wholeMembers ms = true) (hkeys : ∀ m ∈ ms, m.1 ≠ none)
    (honce : ∀ c ∈ cs, (ms.map Prod.fst).count (some c.key) + p.seen.count c.key ≤ 1)
    (hread : ∀ c ∈ cs, ∀ t, ms.lookup (some c.key) = some t → ∃ a, c.read t = .ok a) :
    ∃ q, ms.foldlM r.step p = .ok q := by
  induction ms generalizing p with
  | nil => exact ⟨p, rfl⟩
  | cons m ms ih =>
    obtain ⟨key?, d⟩ := m
    obtain ⟨hkey, hlaterkeys⟩ := List.forall_mem_cons.mp hkeys
    obtain ⟨hd, hms⟩ := Bool.and_eq_true_iff.mp hwhole
    obtain ⟨key, rfl⟩ := Option.ne_none_iff_exists'.mp hkey
    have hlater : ∀ c ∈ cs, ∀ t, ms.lookup (some c.key) = some t → ∃ a, c.read t = .ok a := by
      intro c hc t ht
      apply hread c hc t
      exact lookup_cons_of_once (Nat.le_trans (Nat.le_add_right ..) (honce c hc)) ht
    cases hfind : r.fields.find? (·.answers key) with
    | none =>
      have honce' : ∀ c ∈ cs, (ms.map Prod.fst).count (some c.key) + p.seen.count c.key ≤ 1 := by
        intro c hc
        have hcount := honce c hc
        rw [List.map_cons, List.count_cons] at hcount
        omega
      obtain ⟨q, hq⟩ := ih hms hlaterkeys honce' hlater
      exact ⟨q, foldlM_cons_eq_ok_iff.mpr ⟨key, p, rfl, .passed hfind hd, hq⟩⟩
    | some f =>
      obtain ⟨c₀, hc₀, rfl, rfl⟩ := h.exists_cell hfind
      obtain ⟨a, ha⟩ := hread c₀ hc₀ d List.lookup_cons_self
      have hstore := c₀.store_eq_ok ha p.value
      -- the key stands here, so it has not come before
      have hfresh : c₀.key ∉ p.seen := by
        have hcount := honce c₀ hc₀
        simp at hcount
        exact List.count_eq_zero.mp (by omega)
      have honce' : ∀ c ∈ cs,
          (ms.map Prod.fst).count (some c.key) + (c₀.key :: p.seen).count c.key ≤ 1 := by
        intro c hc
        rw [count_moved]
        exact honce c hc
      obtain ⟨q, hq⟩ := ih (p := ⟨_, c₀.key :: p.seen⟩) hms hlaterkeys honce' hlater
      exact ⟨q, foldlM_cons_eq_ok_iff.mpr ⟨c₀.key, _, rfl, .stored hfind hfresh hstore, hq⟩⟩

/-! ### Records -/

/-- A record that is read is read from a tree that suits. -/
theorem suits (h : r.Consists cs) {d : Draft} {a : σ} (ha : r.ofDraft d = .ok a) :
    d.Suits (cs.map Cell.key) := by
  cases d with
  | object ms =>
    obtain ⟨p, hp, -⟩ := ofDraft_object_eq_ok_iff.mp ha
    obtain ⟨hkeys, honce⟩ := h.keys_of_members List.nodup_nil hp
    refine ⟨hkeys, fun key hkey => ?_⟩
    obtain ⟨c, hc, rfl⟩ := List.mem_map.mp hkey
    exact honce c hc
  | array ds =>
    have hlength : ds.length ≤ r.fields.length := length_of_items ha
    rw [h.fields, List.length_map] at hlength
    show ds.length ≤ (cs.map Cell.key).length
    rwa [List.length_map]
  | _ =>
    obtain ⟨found, -, hwrong⟩ := exists_of_bind_eq_ok ha
    cases hwrong

/-- **A record is read** if its tree suits and every part can be read. -/
theorem exists_ofDraft (h : r.Consists cs) {d : Draft} (hwhole : d.whole = true)
    (hsuits : d.Suits (cs.map Cell.key))
    (hread : ∀ (i : Nat) c t, cs[i]? = some c → d.part i c.key = some t → ∃ a, c.read t = .ok a) :
    ∃ a, r.ofDraft d = .ok a := by
  cases d with
  | object ms =>
    obtain ⟨hkeys, honce⟩ := hsuits
    have hmembers : ∀ c ∈ cs, ∀ t, ms.lookup (some c.key) = some t → ∃ a, c.read t = .ok a := by
      intro c hc t ht
      obtain ⟨i, hi⟩ := List.mem_iff_getElem?.mp hc
      exact hread i c t hi ht
    obtain ⟨p, hp⟩ := h.exists_members (p := r.start) hwhole hkeys
      (fun c hc => honce c.key (List.mem_map_of_mem hc)) hmembers
    -- no field must come, so the end of the object is no fault
    have hoptional : ∀ f ∈ r.fields, f.required = true → f.key ∈ p.seen := by
      rw [h.fields]
      intro f hf hrequired
      obtain ⟨c, -, rfl⟩ := List.mem_map.mp hf
      cases hrequired
    exact ⟨p.value, ofDraft_object_eq_ok_iff.mpr ⟨p, hp, finish_of_seen hoptional⟩⟩
  | array ds =>
    have hlength : ds.length ≤ (cs.map Cell.key).length := hsuits
    rw [List.length_map] at hlength
    have hitems : ∃ a, r.items .malformed (cs.map Cell.field) 0 ds r.blank = .ok a :=
      exists_items hlength fun i c t hc ht => hread i c t hc ht
    rwa [← h.fields] at hitems
  | _ => cases hsuits

/-- **What a record is read from and to**: from a tree that suits, and to what stands in the
places of its fields or to their defaults, each for itself. -/
theorem ofDraft_eq_ok_iff (h : r.Consists cs) {d : Draft} (hwhole : d.whole = true) {a : σ} :
    r.ofDraft d = .ok a ↔ d.Suits (cs.map Cell.key) ∧
      ∀ m ∈ cs.zipIdx, Part m.1.read (m.1.get r.blank) (m.1.get a) (d.part m.2 m.1.key) := by
  constructor
  · intro ha
    exact ⟨h.suits ha, fun m hm => h.part (List.mem_zipIdx_iff_getElem?.mp hm) ha⟩
  · rintro ⟨hsuits, hparts⟩
    have hpart : ∀ i c, cs[i]? = some c →
        Part c.read (c.get r.blank) (c.get a) (d.part i c.key) :=
      fun i c hi => hparts (c, i) (List.mem_zipIdx_iff_getElem?.mpr hi)
    obtain ⟨b, hb⟩ := h.exists_ofDraft hwhole hsuits fun i c t hi ht => by
      have hc := hpart i c hi
      rw [ht] at hc
      exact ⟨_, hc⟩
    -- the parts leave no choice
    have hsame : b = a := by
      refine h.ext b a fun c hc => ?_
      obtain ⟨i, hi⟩ := List.mem_iff_getElem?.mp hc
      exact (h.part hi hb).unique (hpart i c hi)
    rw [hb, hsame]

/-- **What a record inside another is read from and to**: where the tree of the record is
absent, so are all its parts. -/
theorem part_iff (h : r.Consists cs) {o : Option Draft} (hwhole : ∀ t ∈ o, t.whole = true)
    {a : σ} :
    Part r.ofDraft r.blank a o ↔ (∀ t ∈ o, t.Suits (cs.map Cell.key)) ∧
      ∀ m ∈ cs.zipIdx,
        Part m.1.read (m.1.get r.blank) (m.1.get a) (o.bind (·.part m.2 m.1.key)) := by
  cases o with
  | none =>
    constructor
    · rintro rfl
      exact ⟨nofun, fun m _ => rfl⟩
    · rintro ⟨-, hparts⟩
      refine h.ext a r.blank fun c hc => ?_
      obtain ⟨i, hi⟩ := List.mem_iff_getElem?.mp hc
      exact hparts (c, i) (List.mem_zipIdx_iff_getElem?.mpr hi)
  | some d =>
    have hiff := h.ofDraft_eq_ok_iff (hwhole d rfl) (a := a)
    simpa [Part] using hiff

end Consists

end Record

end QuizClient.Json
