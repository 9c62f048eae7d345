import QuizClient.Proofs.Written

/-!
# Keeping a draft

The members of a kept object are put into key order, one after another, and of a repeated key
the last value stays.  So their order in the text makes no difference as long as no key is
repeated; leaving out the members under some keys commutes with keeping; and a single value in
the text either still stands under its key or is gone, whatever it is.

A draft is kept if it fits: its containers stay within the limit, its numbers within the
doubles, and no string of it holds half of a surrogate pair.

## Main definitions

* `Keyed.Carries` — a list of entries holds a value under a key, or does not depend on it.
* `Draft.Fits` — the drafts that are kept.
* `Draft.Permuted` — the members of one object, somewhere in a draft, in another order.

## Main results

* `Keyed.ofList_eq_of_perm`, `Keyed.filter_ofList`, `Keyed.ofList_carries` — entries in another
  order, entries left out, one value among the entries.
* `Draft.Fits.exists_keep?` — what fits is kept.
* `Draft.exists_keep?_array`, `Draft.exists_keep?_object` — an item, and a value, is kept by
  itself.
* `Draft.Permuted.keep?` — **the order of members is not kept.**
-/

namespace QuizClient

/-! ### Entries in key order -/

namespace Keyed

variable {α : Type}

/-- The order of entries makes no difference if no key is repeated. -/
theorem ofList_eq_of_perm {es es' : List (String × α)} (hnodup : (es.map Prod.fst).Nodup)
    (hperm : es.Perm es') : ofList es = ofList es' := by
  have hnodup' : (es'.map Prod.fst).Nodup := (hperm.map Prod.fst).nodup_iff.mp hnodup
  have hsame : (ofList es).Perm (ofList es') :=
    ((ofList_perm hnodup).trans hperm).trans (ofList_perm hnodup').symm
  refine hsame.eq_of_pairwise (fun a b _ _ hab hba => ?_) (sorted_ofList es) (sorted_ofList es')
  exact absurd (String.lt_trans hab hba) (String.lt_irrefl _)

/-- In front of greater keys an entry is put first. -/
theorem insert_of_lt {key : String} {value : α} {m : List (String × α)}
    (h : ∀ e ∈ m, key < e.1) : insert key value m = (key, value) :: m := by
  cases m with
  | nil => rfl
  | cons e m => exact if_pos (h e List.mem_cons_self)

/-- Entries under some keys are left out before or after another one is put in. -/
theorem filter_insert (p : String → Bool) (key : String) (value : α) {m : List (String × α)}
    (hm : Sorted m) : (insert key value m).filter (fun e => p e.1)
      = if p key then insert key value (m.filter fun e => p e.1) else m.filter fun e => p e.1 := by
  induction m with
  | nil => cases hp : p key <;> simp [insert, hp]
  | cons e m ih =>
    obtain ⟨k, v⟩ := e
    obtain ⟨hlater, hm⟩ := List.pairwise_cons.mp hm
    rcases Decidable.em (key < k) with hlt | hlt
    · have hall : ∀ e ∈ ((k, v) :: m).filter fun e => p e.1, key < e.1 := by
        intro e he
        rcases List.mem_cons.mp (List.mem_filter.mp he).1 with rfl | he
        · exact hlt
        · exact String.lt_trans hlt (hlater e he)
      rw [insert, if_pos hlt, insert_of_lt hall, List.filter_cons]
    by_cases heq : key = k
    · subst heq
      cases hp : p key <;> simp [insert, hp]
    · rw [insert, if_neg hlt, if_neg heq]
      cases hk : p k with
      | false => simp [hk, ih hm]
      | true => cases hp : p key <;> simp [insert, hk, hp, hlt, heq, ih hm]

/-- **Entries under some keys are left out** before or after the others are put in order. -/
theorem filter_ofList (p : String → Bool) (es : List (String × α)) :
    (ofList es).filter (fun e => p e.1) = ofList (es.filter fun e => p e.1) := by
  have hfoldl : ∀ m : List (String × α), Sorted m →
      (es.foldl (fun m e => insert e.1 e.2 m) m).filter (fun e => p e.1)
        = (es.filter fun e => p e.1).foldl (fun m e => insert e.1 e.2 m)
          (m.filter fun e => p e.1) := by
    induction es with
    | nil =>
      intro m _
      rfl
    | cons e es ih =>
      intro m hm
      rw [List.foldl_cons, ih _ hm.insert, filter_insert p e.1 e.2 hm]
      cases hp : p e.1 <;> simp [hp]
  exact hfoldl [] List.Pairwise.nil

/-- Entries that hold a value under a key, or do not depend on it. -/
def Carries (key : String) (f : α → List (String × α)) : Prop :=
  (∃ before after, ∀ x, f x = before ++ (key, x) :: after) ∨ ∃ m, ∀ x, f x = m

theorem insert_carries (key : String) (m : List (String × α)) :
    Carries key fun x => insert key x m := by
  induction m with
  | nil => exact .inl ⟨[], [], fun _ => rfl⟩
  | cons e m ih =>
    obtain ⟨k, v⟩ := e
    rcases Decidable.em (key < k) with hlt | hlt
    · exact .inl ⟨[], (k, v) :: m, fun x => if_pos hlt⟩
    by_cases heq : key = k
    · exact .inl ⟨[], m, fun x => by simp [insert, heq]⟩
    · rcases ih with ⟨before, after, h⟩ | ⟨m', h⟩
      · exact .inl ⟨(k, v) :: before, after, fun x => by simp [insert, hlt, heq, h]⟩
      · exact .inr ⟨(k, v) :: m', fun x => by simp [insert, hlt, heq, h]⟩

/-- Behind another entry the value still stands there, or has been replaced. -/
theorem Carries.insert {key : String} {f : α → List (String × α)} (h : Carries key f)
    (k : String) (v : α) : Carries key fun x => Keyed.insert k v (f x) := by
  obtain ⟨before, after, h⟩ | ⟨m, h⟩ := h
  · simp only [h]
    clear h
    induction before with
    | nil =>
      rcases Decidable.em (k < key) with hlt | hlt
      · exact .inl ⟨[(k, v)], after, fun x => by simp [Keyed.insert, hlt]⟩
      by_cases heq : k = key
      · exact .inr ⟨(k, v) :: after, fun x => by simp [Keyed.insert, heq]⟩
      · exact .inl ⟨[], Keyed.insert k v after, fun x => by simp [Keyed.insert, hlt, heq]⟩
    | cons e before ih =>
      obtain ⟨k', v'⟩ := e
      rcases Decidable.em (k < k') with hlt | hlt
      · exact .inl ⟨(k, v) :: (k', v') :: before, after, fun x => by simp [Keyed.insert, hlt]⟩
      by_cases heq : k = k'
      · exact .inl ⟨(k, v) :: before, after, fun x => by simp [Keyed.insert, heq]⟩
      rcases ih with ⟨before', after', ih⟩ | ⟨m, ih⟩
      · exact .inl ⟨(k', v') :: before', after', fun x => by simp [Keyed.insert, hlt, heq, ih]⟩
      · exact .inr ⟨(k', v') :: m, fun x => by simp [Keyed.insert, hlt, heq, ih]⟩
  · exact .inr ⟨Keyed.insert k v m, fun x => congrArg (Keyed.insert k v) (h x)⟩

/-- **A value among entries** stands under its key, or has been replaced by a later one. -/
theorem ofList_carries (before after : List (String × α)) (key : String) :
    Carries key fun x => ofList (before ++ (key, x) :: after) := by
  have hfoldl : ∀ f : α → List (String × α), Carries key f →
      Carries key fun x => after.foldl (fun m e => insert e.1 e.2 m) (f x) := by
    induction after with
    | nil => exact fun f h => h
    | cons e after ih => exact fun f h => ih _ (h.insert e.1 e.2)
  have hinsert := hfoldl _ (insert_carries key (ofList before))
  simpa only [ofList, List.foldl_append, List.foldl_cons] using hinsert

end Keyed

namespace Json.Draft

/-! ### Drafts that fit -/

/-- The drafts that are kept, when containers nest at most `depth` levels: no number beyond the
doubles, no string and no key with half of a surrogate pair. -/
inductive Fits : Nat → Draft → Prop where
  | null {depth : Nat} : Fits depth .null
  | bool {depth : Nat} (b : Bool) : Fits depth (.bool b)
  | number {depth : Nat} {n : Number} (range : n.inRange = true) : Fits depth (.number n)
  | string {depth : Nat} (s : String) : Fits depth (.string (some s))
  | array {depth : Nat} {ds : List Draft} (items : ∀ d ∈ ds, Fits depth d) :
      Fits (depth + 1) (.array ds)
  | object {depth : Nat} {ms : List (Option String × Draft)}
      (keys : ∀ m ∈ ms, m.1.isSome = true) (members : ∀ m ∈ ms, Fits depth m.2) :
      Fits (depth + 1) (.object ms)

theorem keepItems?_cons_eq_some {depth : Nat} {d : Draft} {ds : List Draft} {vs : List Value} :
    keepItems? depth (d :: ds) = some vs ↔
      ∃ v rest, keep? depth d = some v ∧ keepItems? depth ds = some rest ∧ vs = v :: rest := by
  cases hd : keep? depth d <;> cases hds : keepItems? depth ds <;>
    simp [keepItems?, hd, hds, eq_comm]

theorem keepMembers?_cons_eq_some {depth : Nat} {m : Option String × Draft}
    {ms : List (Option String × Draft)} {es : List (String × Value)} :
    keepMembers? depth (m :: ms) = some es ↔ ∃ key v rest, m.1 = some key ∧
      keep? depth m.2 = some v ∧ keepMembers? depth ms = some rest ∧ es = (key, v) :: rest := by
  obtain ⟨key, d⟩ := m
  cases key <;> cases hd : keep? depth d <;> cases hms : keepMembers? depth ms <;>
    simp [keepMembers?, hd, hms, eq_comm]

theorem keep?_array_eq_some {depth : Nat} {ds : List Draft} {v : Value} :
    keep? (depth + 1) (.array ds) = some v ↔
      ∃ vs, keepItems? depth ds = some vs ∧ v = .array vs := by
  cases hds : keepItems? depth ds <;> simp [keep?, hds, eq_comm]

theorem keep?_object_eq_some {depth : Nat} {ms : List (Option String × Draft)} {v : Value} :
    keep? (depth + 1) (.object ms) = some v ↔
      ∃ es, keepMembers? depth ms = some es ∧ v = .object (Keyed.ofList es) := by
  cases hms : keepMembers? depth ms <;> simp [keep?, hms, eq_comm]

/-- **What fits is kept.** -/
theorem Fits.exists_keep? {depth : Nat} {d : Draft} (h : d.Fits depth) :
    ∃ v, d.keep? depth = some v := by
  induction h with
  | null | bool | string => exact ⟨_, rfl⟩
  | number range => exact ⟨_, if_pos range⟩
  | @array depth ds items ih =>
    clear items
    have hitems : ∃ vs, keepItems? depth ds = some vs := by
      induction ds with
      | nil => exact ⟨[], rfl⟩
      | cons d ds ihds =>
        obtain ⟨hd, hds⟩ := List.forall_mem_cons.mp ih
        obtain ⟨v, hv⟩ := hd
        obtain ⟨vs, hvs⟩ := ihds hds
        exact ⟨_, keepItems?_cons_eq_some.mpr ⟨v, vs, hv, hvs, rfl⟩⟩
    obtain ⟨vs, hvs⟩ := hitems
    exact ⟨_, keep?_array_eq_some.mpr ⟨vs, hvs, rfl⟩⟩
  | @object depth ms keys members ih =>
    clear members
    have hmembers : ∃ es, keepMembers? depth ms = some es := by
      induction ms with
      | nil => exact ⟨[], rfl⟩
      | cons m ms ihms =>
        obtain ⟨hm, hms⟩ := List.forall_mem_cons.mp ih
        obtain ⟨hkey, hkeys⟩ := List.forall_mem_cons.mp keys
        obtain ⟨key, hkey⟩ := Option.isSome_iff_exists.mp hkey
        obtain ⟨v, hv⟩ := hm
        obtain ⟨es, hes⟩ := ihms hkeys hms
        exact ⟨_, keepMembers?_cons_eq_some.mpr ⟨key, v, es, hkey, hv, hes, rfl⟩⟩
    obtain ⟨es, hes⟩ := hmembers
    exact ⟨_, keep?_object_eq_some.mpr ⟨es, hes, rfl⟩⟩

/-! ### One part of a draft -/

theorem keepItems?_append_eq_some {depth : Nat} {before after : List Draft} {vs : List Value} :
    keepItems? depth (before ++ after) = some vs ↔ ∃ front back,
      keepItems? depth before = some front ∧ keepItems? depth after = some back ∧
        vs = front ++ back := by
  induction before generalizing vs with
  | nil => simp [keepItems?]
  | cons d before ih =>
    rw [List.cons_append, keepItems?_cons_eq_some]
    constructor
    · rintro ⟨v, rest, hv, hrest, rfl⟩
      obtain ⟨front, back, hfront, hback, rfl⟩ := ih.mp hrest
      exact ⟨_, back, keepItems?_cons_eq_some.mpr ⟨v, front, hv, hfront, rfl⟩, hback, rfl⟩
    · rintro ⟨front, back, hfront, hback, rfl⟩
      obtain ⟨v, rest, hv, hrest, rfl⟩ := keepItems?_cons_eq_some.mp hfront
      exact ⟨v, _, hv, ih.mpr ⟨rest, back, hrest, hback, rfl⟩, rfl⟩

theorem keepMembers?_append_eq_some {depth : Nat} {before after : List (Option String × Draft)}
    {es : List (String × Value)} :
    keepMembers? depth (before ++ after) = some es ↔ ∃ front back,
      keepMembers? depth before = some front ∧ keepMembers? depth after = some back ∧
        es = front ++ back := by
  induction before generalizing es with
  | nil => simp [keepMembers?]
  | cons m before ih =>
    rw [List.cons_append, keepMembers?_cons_eq_some]
    constructor
    · rintro ⟨k, v, rest, hk, hv, hrest, rfl⟩
      obtain ⟨front, back, hfront, hback, rfl⟩ := ih.mp hrest
      have hcons := keepMembers?_cons_eq_some.mpr ⟨k, v, front, hk, hv, hfront, rfl⟩
      exact ⟨_, back, hcons, hback, rfl⟩
    · rintro ⟨front, back, hfront, hback, rfl⟩
      obtain ⟨k, v, rest, hk, hv, hrest, rfl⟩ := keepMembers?_cons_eq_some.mp hfront
      exact ⟨k, v, _, hk, hv, ih.mpr ⟨rest, back, hrest, hback, rfl⟩, rfl⟩

theorem length_of_keepItems? {depth : Nat} {ds : List Draft} {vs : List Value}
    (h : keepItems? depth ds = some vs) : vs.length = ds.length := by
  induction ds generalizing vs with
  | nil =>
    cases h
    rfl
  | cons d ds ih =>
    obtain ⟨v, rest, -, hrest, rfl⟩ := keepItems?_cons_eq_some.mp h
    exact congrArg (· + 1) (ih hrest)

/-- **An item is kept by itself.** -/
theorem exists_keep?_array {depth : Nat} {before after : List Draft} {d : Draft} {v : Value}
    (h : keep? (depth + 1) (.array (before ++ d :: after)) = some v) :
    ∃ front w back, front.length = before.length ∧ keep? depth d = some w ∧
      v = .array (front ++ w :: back) ∧ ∀ d' w', keep? depth d' = some w' →
        keep? (depth + 1) (.array (before ++ d' :: after))
          = some (.array (front ++ w' :: back)) := by
  obtain ⟨vs, hvs, rfl⟩ := keep?_array_eq_some.mp h
  obtain ⟨front, rest, hfront, hrest, rfl⟩ := keepItems?_append_eq_some.mp hvs
  obtain ⟨w, back, hw, hback, rfl⟩ := keepItems?_cons_eq_some.mp hrest
  refine ⟨front, w, back, length_of_keepItems? hfront, hw, rfl, fun d' w' hw' => ?_⟩
  have hcons := keepItems?_cons_eq_some.mpr ⟨w', back, hw', hback, rfl⟩
  have happend := keepItems?_append_eq_some.mpr ⟨front, _, hfront, hcons, rfl⟩
  exact keep?_array_eq_some.mpr ⟨_, happend, rfl⟩

/-- **The value of a member is kept by itself.** -/
theorem exists_keep?_object {depth : Nat} {before after : List (Option String × Draft)}
    {key : Option String} {d : Draft} {v : Value}
    (h : keep? (depth + 1) (.object (before ++ (key, d) :: after)) = some v) :
    ∃ front k w back, key = some k ∧ keep? depth d = some w ∧
      v = .object (Keyed.ofList (front ++ (k, w) :: back)) ∧
      ∀ d' w', keep? depth d' = some w' →
        keep? (depth + 1) (.object (before ++ (key, d') :: after))
          = some (.object (Keyed.ofList (front ++ (k, w') :: back))) := by
  obtain ⟨es, hes, rfl⟩ := keep?_object_eq_some.mp h
  obtain ⟨front, rest, hfront, hrest, rfl⟩ := keepMembers?_append_eq_some.mp hes
  obtain ⟨k, w, back, hkey, hw, hback, rfl⟩ := keepMembers?_cons_eq_some.mp hrest
  refine ⟨front, k, w, back, hkey, hw, rfl, fun d' w' hw' => ?_⟩
  have hcons : keepMembers? depth ((key, d') :: after) = some ((k, w') :: back) :=
    keepMembers?_cons_eq_some.mpr ⟨k, w', back, hkey, hw', hback, rfl⟩
  have happend := keepMembers?_append_eq_some.mpr ⟨front, _, hfront, hcons, rfl⟩
  exact keep?_object_eq_some.mpr ⟨_, happend, rfl⟩

/-! ### The order of members -/

/-- The members of an object, in a draft or in a part of it, stand in another order.  No key
is repeated there. -/
inductive Permuted : Draft → Draft → Prop where
  /-- The object itself. -/
  | here {ms ms' : List (Option String × Draft)} (distinct : (ms.map Prod.fst).Nodup)
      (perm : ms.Perm ms') : Permuted (.object ms) (.object ms')
  /-- In an item. -/
  | item {before after : List Draft} {d d' : Draft} (inner : Permuted d d') :
      Permuted (.array (before ++ d :: after)) (.array (before ++ d' :: after))
  /-- In the value of a member. -/
  | member {before after : List (Option String × Draft)} {key : Option String} {d d' : Draft}
      (inner : Permuted d d') :
      Permuted (.object (before ++ (key, d) :: after)) (.object (before ++ (key, d') :: after))

theorem exists_keepMembers?_of_perm {depth : Nat} {ms ms' : List (Option String × Draft)}
    (hperm : ms.Perm ms') {es : List (String × Value)} (h : keepMembers? depth ms = some es) :
    ∃ es', keepMembers? depth ms' = some es' ∧ es.Perm es' := by
  induction hperm generalizing es with
  | nil => exact ⟨es, h, .refl _⟩
  | cons m _ ih =>
    obtain ⟨k, v, rest, hk, hv, hrest, rfl⟩ := keepMembers?_cons_eq_some.mp h
    obtain ⟨rest', hrest', hperm⟩ := ih hrest
    exact ⟨_, keepMembers?_cons_eq_some.mpr ⟨k, v, rest', hk, hv, hrest', rfl⟩, hperm.cons _⟩
  | swap m m' ms =>
    obtain ⟨k', v', tail, hk', hv', htail, rfl⟩ := keepMembers?_cons_eq_some.mp h
    obtain ⟨k, v, rest, hk, hv, hrest, rfl⟩ := keepMembers?_cons_eq_some.mp htail
    have htail := keepMembers?_cons_eq_some.mpr ⟨k', v', rest, hk', hv', hrest, rfl⟩
    have hswapped := keepMembers?_cons_eq_some.mpr ⟨k, v, _, hk, hv, htail, rfl⟩
    exact ⟨_, hswapped, .swap _ _ _⟩
  | trans _ _ ih ih' =>
    obtain ⟨es₁, h₁, hperm₁⟩ := ih h
    obtain ⟨es₂, h₂, hperm₂⟩ := ih' h₁
    exact ⟨es₂, h₂, hperm₁.trans hperm₂⟩

theorem keys_of_keepMembers? {depth : Nat} {ms : List (Option String × Draft)}
    {es : List (String × Value)} (h : keepMembers? depth ms = some es) :
    ms.map Prod.fst = (es.map Prod.fst).map some := by
  induction ms generalizing es with
  | nil =>
    cases h
    rfl
  | cons m ms ih =>
    obtain ⟨k, v, rest, hk, -, hrest, rfl⟩ := keepMembers?_cons_eq_some.mp h
    simp [hk, ih hrest]

/-- **The order of members is not kept.** -/
theorem Permuted.keep? {depth : Nat} {d d' : Draft} (h : Permuted d d') {v : Value}
    (hv : d.keep? depth = some v) : d'.keep? depth = some v := by
  induction h generalizing depth v with
  | here distinct perm =>
    cases depth with
    | zero => cases hv
    | succ depth =>
      obtain ⟨es, hes, rfl⟩ := keep?_object_eq_some.mp hv
      obtain ⟨es', hes', hperm⟩ := exists_keepMembers?_of_perm perm hes
      have hnodup : (es.map Prod.fst).Nodup := by
        rw [keys_of_keepMembers? hes] at distinct
        exact (List.pairwise_map.mp distinct).imp fun hne heq => hne (congrArg some heq)
      rw [Keyed.ofList_eq_of_perm hnodup hperm]
      exact keep?_object_eq_some.mpr ⟨es', hes', rfl⟩
  | item _ ih =>
    cases depth with
    | zero => cases hv
    | succ depth =>
      obtain ⟨front, w, back, -, hw, rfl, hkeep⟩ := exists_keep?_array hv
      exact hkeep _ w (ih hw)
  | member _ ih =>
    cases depth with
    | zero => cases hv
    | succ depth =>
      obtain ⟨front, k, w, back, rfl, hw, rfl, hkeep⟩ := exists_keep?_object hv
      exact hkeep _ w (ih hw)

end Json.Draft

end QuizClient
