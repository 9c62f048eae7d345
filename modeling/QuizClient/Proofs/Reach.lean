import QuizClient.Proofs.Codecs

/-!
# Reading a part of a value

A reader reaches another one through a place if it reads what stands in the place by the other
one.  What it reads then changes as the part does, and a fault in the part is its fault.

For a record this needs that a change of one field goes unnoticed by the others: storing them
before or after the change comes to the same.  So a change can be followed along the members
of an object, of which each is read into a record that differs by it.

## Main definitions

* `Field.Spares`, `Record.Owns` — a change that a field, or every other field, does not notice.
* `Progress.Shadows` — the same fields read, into records that differ by a change.
* `Reaches` — a reader reads what stands in a place by another one.

## Main results

* `foldlM_shadow`, `items_shadow` — **a change is followed along members and items.**
* `Reaches.trans` — places in places.
* `list_reaches`, `optional_reaches`, `orBlank_reaches`, `member_reaches` — items and fields.
* `object_reaches`, `array_reaches` — fields of objects and of arrays.
-/

namespace QuizClient.Json

variable {ι σ α β γ : Type}

/-! ### Changes that go unnoticed -/

/-- The field stores the same on either side of a change. -/
def Field.Spares (f : Field ι σ) (edit : σ → σ) : Prop :=
  ∀ x s t, f.store x s = .ok t → f.store x (edit s) = .ok (edit t)

/-- A field that is set by what a codec reads spares what commutes with setting it. -/
theorem Field.spares_of_store {f : Field Value σ} {c : Codec α} {set : α → σ → σ} {edit : σ → σ}
    (hstore : f.store = fun v s => (set · s) <$> c.read v)
    (h : ∀ a s, set a (edit s) = edit (set a s)) : f.Spares edit := by
  intro v s t ht
  rw [hstore] at ht ⊢
  obtain ⟨a, ha, rfl⟩ := exists_of_map_eq_ok ht
  change (set · (edit s)) <$> c.read v = _
  rw [ha, ← h]
  rfl

/-- No other field notices a change. -/
def Record.Owns (r : Record ι σ) (f : Field ι σ) (edit : σ → σ) : Prop :=
  ∀ g ∈ r.fields, g.key ≠ f.key → g.Spares edit

/-- As many fields read but for one, into records that differ by a change. -/
structure Progress.Shadows (key : String) (edit : σ → σ) (p q : Progress σ) : Prop where
  /-- The records differ by the change. -/
  value : q.value = edit p.value
  /-- The fields read are the same. -/
  seen : ∀ k, k ≠ key → (k ∈ q.seen ↔ k ∈ p.seen)

namespace Record

variable {r : Record ι σ} {f : Field ι σ} {edit : σ → σ} {skip : ι → Except Fault Unit}

/-- The field stores a member that it answers to, the first time. -/
theorem member_of_find? {p p' : Progress σ} {key : String} {x : ι}
    (hf : r.fields.find? (·.answers key) = some f) :
    r.member skip p key x = .ok p' ↔
      f.key ∉ p.seen ∧ ∃ t, f.store x p.value = .ok t ∧ p' = ⟨t, f.key :: p.seen⟩ := by
  rw [member, hf]
  by_cases hseen : f.key ∈ p.seen
  · simp [hseen]
  · cases hstore : f.store x p.value <;> simp [hseen, hstore, eq_comm]

/-- A change is followed over a member of another field, or of none. -/
theorem member_shadow (hown : r.Owns f edit) {p p' q : Progress σ} {key : String} {x : ι}
    (hother : ∀ g, r.fields.find? (·.answers key) = some g → g.key ≠ f.key)
    (hpq : p.Shadows f.key edit q) (h : r.member skip p key x = .ok p') :
    ∃ q', r.member skip q key x = .ok q' ∧ p'.Shadows f.key edit q' ∧
      (f.key ∈ q'.seen ↔ f.key ∈ q.seen) := by
  cases hg : r.fields.find? (·.answers key) with
  | none =>
    rw [member, hg] at h
    obtain ⟨u, hskip, rfl⟩ := exists_of_map_eq_ok h
    refine ⟨q, ?_, hpq, .rfl⟩
    rw [member, hg, hskip]
    rfl
  | some g =>
    have hne : g.key ≠ f.key := hother g hg
    obtain ⟨hseen, t, hstore, rfl⟩ := (member_of_find? hg).mp h
    have hspare := hown g (List.mem_of_find?_eq_some hg) hne x p.value t hstore
    rw [← hpq.value] at hspare
    refine ⟨⟨edit t, g.key :: q.seen⟩, ?_, ⟨rfl, fun k hk => ?_⟩, ?_⟩
    · exact (member_of_find? hg).mpr ⟨mt (hpq.seen g.key hne).mp hseen, _, hspare, rfl⟩
    · simp [hpq.seen k hk]
    · simp [hne.symm]

/-- **A change is followed along members** of other fields. -/
theorem foldlM_shadow (hown : r.Owns f edit) {es : List (String × ι)}
    (hother : ∀ e ∈ es, ∀ g, r.fields.find? (·.answers e.1) = some g → g.key ≠ f.key)
    {p p' q : Progress σ} (hpq : p.Shadows f.key edit q)
    (h : es.foldlM (fun p e => r.member skip p e.1 e.2) p = .ok p') :
    ∃ q', es.foldlM (fun p e => r.member skip p e.1 e.2) q = .ok q' ∧
      p'.Shadows f.key edit q' ∧ (f.key ∈ q'.seen ↔ f.key ∈ q.seen) := by
  induction es generalizing p q with
  | nil =>
    cases h
    exact ⟨q, rfl, hpq, .rfl⟩
  | cons e es ih =>
    obtain ⟨hfirst, hother⟩ := List.forall_mem_cons.mp hother
    obtain ⟨m, hm, h⟩ := exists_of_bind_eq_ok h
    obtain ⟨n, hn, hmn, hseen⟩ := member_shadow hown hfirst hpq hm
    obtain ⟨q', hq', hp', hseen'⟩ := ih hother hmn h
    refine ⟨q', ?_, hp', hseen'.trans hseen⟩
    rw [List.foldlM_cons, hn]
    exact hq'

/-- Members of other fields do not make a field come. -/
theorem foldlM_seen {es : List (String × ι)}
    (hother : ∀ e ∈ es, ∀ g, r.fields.find? (·.answers e.1) = some g → g.key ≠ f.key)
    {p p' : Progress σ} (h : es.foldlM (fun p e => r.member skip p e.1 e.2) p = .ok p') :
    f.key ∈ p'.seen ↔ f.key ∈ p.seen := by
  -- the run shadows itself
  have hown : r.Owns f id := fun _ _ _ _ _ _ hstore => hstore
  obtain ⟨q', hq', -, hseen⟩ := foldlM_shadow hown hother ⟨rfl, fun _ _ => .rfl⟩ h
  rw [h] at hq'
  cases hq'
  exact hseen

/-- Once a field has come, no further member is for it. -/
theorem others_of_seen {es : List (String × ι)} {p p' : Progress σ} (hseen : f.key ∈ p.seen)
    (h : es.foldlM (fun p e => r.member skip p e.1 e.2) p = .ok p') :
    ∀ e ∈ es, ∀ g, r.fields.find? (·.answers e.1) = some g → g.key ≠ f.key := by
  induction es generalizing p with
  | nil => exact nofun
  | cons e es ih =>
    obtain ⟨m, hm, h⟩ := exists_of_bind_eq_ok h
    refine List.forall_mem_cons.mpr ⟨fun g hg heq => ?_, ih ?_ h⟩
    · exact ((member_of_find? hg).mp hm).1 (heq ▸ hseen)
    · change r.member skip p e.1 e.2 = .ok m at hm
      cases hg : r.fields.find? (·.answers e.1) with
      | none =>
        rw [member, hg] at hm
        obtain ⟨-, -, rfl⟩ := exists_of_map_eq_ok hm
        exact hseen
      | some g =>
        obtain ⟨-, t, -, rfl⟩ := (member_of_find? hg).mp hm
        exact List.mem_cons_of_mem _ hseen

/-- When one run of the fields is done, so is the other, if the field that may make the
difference has come there or need not. -/
theorem finish_shadow {p q : Progress σ} {a : σ} (hpq : p.Shadows f.key edit q)
    (hdone : ∀ g ∈ r.fields, g.key = f.key → g.required = true → f.key ∈ q.seen)
    (h : r.finish p = .ok a) : r.finish q = .ok (edit a) := by
  obtain ⟨rfl, hrequired⟩ := seen_of_finish h
  rw [← hpq.value]
  refine finish_of_seen fun g hg hreq => ?_
  by_cases hkey : g.key = f.key
  · exact hkey ▸ hdone g hg hkey hreq
  · exact (hpq.seen g.key hkey).mpr (hrequired g hg hreq)

/-- A change is followed along items of other fields. -/
theorem items_shadow {fs : List (Field ι σ)} (hspare : ∀ g ∈ fs, g.Spares edit)
    {excess excess' : Fault} {i : Nat} {xs : List ι} {s t : σ}
    (h : r.items excess fs i xs s = .ok t) :
    r.items excess' fs i xs (edit s) = .ok (edit t) := by
  induction fs generalizing i xs s with
  | nil =>
    cases xs with
    | nil =>
      cases h
      rfl
    | cons x xs => cases h
  | cons g fs ih =>
    obtain ⟨hg, hspare⟩ := List.forall_mem_cons.mp hspare
    cases xs with
    | nil =>
      unfold items at h ⊢
      split at h
      · cases h
      · next hoptional =>
        rw [if_neg hoptional]
        exact ih hspare h
    | cons x xs =>
      obtain ⟨s', hs', h⟩ := exists_of_bind_eq_ok h
      rw [items, hg x s s' hs']
      exact ih hspare h

/-- The items in front of a field are stored first, then the item of the field. -/
theorem items_append {fs : List (Field ι σ)} {before : List ι}
    (hf : fs[before.length]? = some f) (excess : Fault) (x : ι) (after : List ι) (i : Nat) (s : σ) :
    r.items excess fs i (before ++ x :: after) s = (do
      let s ← (fs.zip before).foldlM (fun s (g, y) => g.store y s) s
      let s ← f.store x s
      r.items excess (fs.drop (before.length + 1)) (i + before.length + 1) after s) := by
  induction before generalizing fs i s with
  | nil =>
    cases fs with
    | nil => cases hf
    | cons g fs =>
      cases hf
      rfl
  | cons y before ih =>
    cases fs with
    | nil => cases hf
    | cons g fs =>
      rw [List.cons_append, items, List.zip_cons_cons, List.foldlM_cons, bind_assoc]
      refine bind_congr fun s => ?_
      rw [ih hf, List.length_cons, Nat.add_right_comm i 1, Nat.add_assoc i before.length 1]
      rfl

end Record

/-! ### Readers through places -/

/-- What one reader reads of a value with a part in a place is what the other one reads of the
part, put in the place: it changes as the part does, and a fault in the part is its fault. -/
structure Reaches (read : Value → Except Fault α) (inner : Value → Except Fault β)
    (plug : Value → Value) (modify : (β → β) → α → α) : Prop where
  /-- With a part in it the value is not `null`. -/
  solid : ∀ x, x ≠ .null → plug x ≠ .null
  /-- The part is read. -/
  reach : ∀ x a, x ≠ .null → read (plug x) = .ok a → ∃ b, inner x = .ok b ∧
    ∀ y, y ≠ .null → (∀ edit, inner y = .ok (edit b) → read (plug y) = .ok (modify edit a)) ∧
      ∀ e, inner y = .error e → read (plug y) = .error e

namespace Reaches

theorem here (read : Value → Except Fault α) :
    Reaches read read (fun x => x) (fun edit => edit) where
  solid _ hx := hx
  reach _ a _ h := ⟨a, h, fun _ _ => ⟨fun _ hy => hy, fun _ hy => hy⟩⟩

/-- **Places in places.** -/
theorem trans {read : Value → Except Fault α} {middle : Value → Except Fault β}
    {inner : Value → Except Fault γ} {plug plug' : Value → Value} {modify : (β → β) → α → α}
    {modify' : (γ → γ) → β → β} (h : Reaches read middle plug modify)
    (h' : Reaches middle inner plug' modify') :
    Reaches read inner (fun x => plug (plug' x)) (fun edit => modify (modify' edit)) where
  solid x hx := h.solid _ (h'.solid x hx)
  reach x a hx hread := by
    obtain ⟨b, hb, hmiddle⟩ := h.reach _ a (h'.solid x hx) hread
    obtain ⟨c, hc, hinner⟩ := h'.reach x b hx hb
    refine ⟨c, hc, fun y hy => ⟨fun edit hedit => ?_, fun e he => ?_⟩⟩
    · exact (hmiddle _ (h'.solid y hy)).1 _ ((hinner y hy).1 edit hedit)
    · exact (hmiddle _ (h'.solid y hy)).2 e ((hinner y hy).2 e he)

end Reaches

/-! ### Items and fields -/

theorem mapM_append_cons {ε : Type} {f : Value → Except ε α} (before : List Value) (x : Value)
    (after : List Value) :
    (before ++ x :: after).mapM f = (do
      let front ← before.mapM f
      let a ← f x
      let back ← after.mapM f
      pure (front ++ a :: back)) := by
  simp [List.mapM_append, List.mapM_cons]

theorem length_of_mapM {ε : Type} {f : Value → Except ε α} {xs : List Value} {as : List α}
    (h : xs.mapM f = .ok as) : as.length = xs.length := by
  induction xs generalizing as with
  | nil =>
    cases h
    rfl
  | cons x xs ih =>
    rw [List.mapM_cons] at h
    obtain ⟨a, -, h⟩ := exists_of_bind_eq_ok h
    obtain ⟨as, has, h⟩ := exists_of_bind_eq_ok h
    cases h
    simp [ih has]

/-- An item of a list. -/
theorem list_reaches (c : Codec α) (before after : List Value) :
    Reaches c.list.read c.read (fun x => .array (before ++ x :: after))
      (fun edit as => as.modify before.length edit) where
  solid _ _ := nofun
  reach x a _ h := by
    change (before ++ x :: after).mapM c.read = .ok a at h
    rw [mapM_append_cons] at h
    obtain ⟨front, hfront, h⟩ := exists_of_bind_eq_ok h
    obtain ⟨b, hb, h⟩ := exists_of_bind_eq_ok h
    obtain ⟨back, hback, h⟩ := exists_of_bind_eq_ok h
    cases h
    have hread : ∀ y, c.list.read (.array (before ++ y :: after))
        = (fun b => front ++ b :: back) <$> c.read y := by
      intro y
      change (before ++ y :: after).mapM c.read = _
      rw [mapM_append_cons, hfront, hback]
      cases c.read y <;> rfl
    refine ⟨b, hb, fun y _ => ⟨fun edit hedit => ?_, fun e he => ?_⟩⟩
    · have hmodify : (front ++ b :: back).modify front.length edit = front ++ edit b :: back :=
        List.modifyTailIdx_add (List.modifyHead edit) 0 front (b :: back)
      rw [hread, hedit, ← length_of_mapM hfront, hmodify]
      rfl
    · rw [hread, he]
      rfl

/-- What may be absent, when it is there. -/
theorem optional_reaches (c : Codec α) :
    Reaches c.optional.read c.read (fun x => x) (fun edit o => o.map edit) where
  solid _ hx := hx
  reach x a hx h := by
    have hread : ∀ y, y ≠ .null → c.optional.read y = some <$> c.read y := by
      intro y hy
      cases y <;> first | rfl | exact absurd rfl hy
    rw [hread x hx] at h
    obtain ⟨b, hb, rfl⟩ := exists_of_map_eq_ok h
    refine ⟨b, hb, fun y hy => ⟨fun edit hedit => ?_, fun e he => ?_⟩⟩
    · rw [hread y hy, hedit]
      rfl
    · rw [hread y hy, he]
      rfl

/-- What `null` leaves blank, when it is there. -/
theorem orBlank_reaches (c : Codec α) (blank : α) :
    Reaches (c.orBlank blank).read c.read (fun x => x) (fun edit => edit) where
  solid _ hx := hx
  reach x a hx h := by
    have hread : ∀ y, y ≠ .null → (c.orBlank blank).read y = c.read y := by
      intro y hy
      cases y <;> first | rfl | exact absurd rfl hy
    rw [hread x hx] at h
    refine ⟨a, h, fun y hy => ⟨fun edit hedit => ?_, fun e he => ?_⟩⟩
    · rw [hread y hy, hedit]
    · rw [hread y hy, he]

/-- A part of the content of a field. -/
theorem member_reaches {c : Codec α} {set : α → σ → σ} {inner : Value → Except Fault β}
    {plug : Value → Value} {modify : (β → β) → α → α} {modify' : (β → β) → σ → σ}
    (h : Reaches c.read inner plug modify)
    (hmodify : ∀ edit a s, modify' edit (set a s) = set (modify edit a) s) (s : σ) :
    Reaches (fun x => (set · s) <$> c.read x) inner plug modify' where
  solid := h.solid
  reach x t hx hstore := by
    obtain ⟨a, ha, rfl⟩ := exists_of_map_eq_ok hstore
    obtain ⟨b, hb, hinner⟩ := h.reach x a hx ha
    refine ⟨b, hb, fun y hy => ⟨fun edit hedit => ?_, fun e he => ?_⟩⟩
    · rw [(hinner y hy).1 edit hedit, hmodify]
      rfl
    · rw [(hinner y hy).2 e he]
      rfl

/-! ### Fields of records -/

namespace Record

variable {r : Record Value σ} {f : Field Value σ} {inner : Value → Except Fault β}
  {plug : Value → Value} {modify : (β → β) → σ → σ}

/-- The members in front of one are read first, then this one and those behind it. -/
theorem ofValue_append (r : Record Value σ) (before after : List (String × Value)) (key : String)
    (x : Value) : r.ofValue (.object (before ++ (key, x) :: after)) = (do
      let p ← before.foldlM (fun p e => r.member (fun _ => .ok ()) p e.1 e.2) r.start
      let p ← r.member (fun _ => .ok ()) p key x
      let p ← after.foldlM (fun p e => r.member (fun _ => .ok ()) p e.1 e.2) p
      r.finish p) := by
  change (before ++ (key, x) :: after).foldlM
    (fun p (e : String × Value) => r.member (fun _ => .ok ()) p e.1 e.2) r.start >>= r.finish = _
  rw [List.foldlM_append, bind_assoc]
  refine bind_congr fun p => ?_
  rw [List.foldlM_cons, bind_assoc]

/-- A field of an object. -/
theorem object_reaches {key : String} (hf : r.fields.find? (·.answers key) = some f)
    (hstore : ∀ s, Reaches (f.store · s) inner plug modify) (hown : ∀ edit, r.Owns f (modify edit))
    (before after : List (String × Value)) :
    Reaches r.ofValue inner (fun x => .object (before ++ (key, plug x) :: after)) modify where
  solid _ _ := nofun
  reach x a hx h := by
    rw [ofValue_append] at h
    obtain ⟨p₁, hp₁, h⟩ := exists_of_bind_eq_ok h
    obtain ⟨p₂, hp₂, h⟩ := exists_of_bind_eq_ok h
    obtain ⟨p₃, h, hfinish⟩ := exists_of_bind_eq_ok h
    obtain ⟨hseen, t, ht, rfl⟩ := (member_of_find? hf).mp hp₂
    obtain ⟨b, hb, hinner⟩ := (hstore p₁.value).reach x t hx ht
    have hread : ∀ y, r.ofValue (.object (before ++ (key, plug y) :: after)) = (do
        let p ← r.member (fun _ => .ok ()) p₁ key (plug y)
        let p ← after.foldlM (fun p e => r.member (fun _ => .ok ()) p e.1 e.2) p
        r.finish p) := by
      intro y
      rw [ofValue_append, hp₁]
      rfl
    refine ⟨b, hb, fun y hy => ⟨fun edit hedit => ?_, fun e he => ?_⟩⟩
    · -- behind the field, the record differs by the edit
      have hmember : r.member (fun _ => .ok ()) p₁ key (plug y)
          = .ok ⟨modify edit t, f.key :: p₁.seen⟩ :=
        (member_of_find? hf).mpr ⟨hseen, _, (hinner y hy).1 edit hedit, rfl⟩
      have hsame : Progress.Shadows f.key (modify edit) ⟨t, f.key :: p₁.seen⟩
          ⟨modify edit t, f.key :: p₁.seen⟩ := ⟨rfl, fun _ _ => .rfl⟩
      obtain ⟨q₃, hq₃, hshadow, hcame⟩ :=
        foldlM_shadow (hown edit) (others_of_seen List.mem_cons_self h) hsame h
      have hdone : r.ofValue (.object (before ++ (key, plug y) :: after)) = r.finish q₃ := by
        rw [hread, hmember]
        exact congrArg (· >>= r.finish) hq₃
      rw [hdone]
      exact finish_shadow hshadow (fun _ _ _ _ => hcame.mpr List.mem_cons_self) hfinish
    · have hmember : r.member (fun _ => .ok ()) p₁ key (plug y) = .error e := by
        have hfresh : p₁.seen.contains f.key = false := by simpa using hseen
        rw [member, hf]
        simp only [hfresh, (hinner y hy).2 e he]
        rfl
      rw [hread, hmember]
      rfl

/-- A field of an array. -/
theorem array_reaches {before : List Value} (hf : r.fields[before.length]? = some f)
    (hkeys : (r.fields.map (·.key)).Nodup) (hstore : ∀ s, Reaches (f.store · s) inner plug modify)
    (hown : ∀ edit, r.Owns f (modify edit)) (after : List Value) :
    Reaches r.ofValue inner (fun x => .array (before ++ plug x :: after)) modify where
  solid _ _ := nofun
  reach x a hx h := by
    change r.items _ r.fields 0 (before ++ plug x :: after) r.blank = .ok a at h
    rw [items_append hf] at h
    obtain ⟨s, hs, h⟩ := exists_of_bind_eq_ok h
    obtain ⟨t, ht, h⟩ := exists_of_bind_eq_ok h
    obtain ⟨b, hb, hinner⟩ := (hstore s).reach x t hx ht
    have hread : ∀ y, r.ofValue (.array (before ++ plug y :: after)) = (do
        let t ← f.store (plug y) s
        r.items (.tooLong (before ++ plug y :: after).length) (r.fields.drop (before.length + 1))
          (0 + before.length + 1) after t) := by
      intro y
      change r.items _ r.fields 0 (before ++ plug y :: after) r.blank = _
      rw [items_append hf, hs]
      rfl
    -- the fields behind this one have other keys
    have hothers : ∀ g ∈ r.fields.drop (before.length + 1), g.key ≠ f.key := by
      have hdrop : r.fields.drop before.length = f :: r.fields.drop (before.length + 1) := by
        obtain ⟨hlt, hget⟩ := List.getElem?_eq_some_iff.mp hf
        rw [List.drop_eq_getElem_cons hlt, hget]
      have hnodup : ((r.fields.drop before.length).map (·.key)).Nodup := by
        rw [List.map_drop]
        exact hkeys.drop
      rw [hdrop, List.map_cons, List.nodup_cons] at hnodup
      intro g hg heq
      exact hnodup.1 (heq ▸ List.mem_map_of_mem hg)
    refine ⟨b, hb, fun y hy => ⟨fun edit hedit => ?_, fun e he => ?_⟩⟩
    · rw [hread, (hinner y hy).1 edit hedit]
      refine items_shadow (fun g hg => ?_) h
      exact hown edit g (List.mem_of_mem_drop hg) (hothers g hg)
    · rw [hread, (hinner y hy).2 e he]
      rfl

end Record

end QuizClient.Json
