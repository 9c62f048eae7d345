/-!
# Dictionaries in key order

An association list whose keys strictly increase.  Keys compare code point by
code point, which for texts is the order of their UTF-8 bytes.

## Main definitions

* `Keyed.Sorted`, `Keyed.insert`, `Keyed.ofList` — association lists in key
  order; of a repeated key the last value stays.
* `Dictionary` — an association list with the proof that it is sorted.
-/

namespace QuizClient

universe u

/-! ### Sorted association lists -/

namespace Keyed

variable {α : Type u}

/-- Keys strictly increase. -/
def Sorted (m : List (String × α)) : Prop := m.Pairwise fun a b => a.1 < b.1

/-- Puts a value under a key, in place of the value that is there. -/
def insert (key : String) (value : α) : List (String × α) → List (String × α)
  | [] => [(key, value)]
  | (k, v) :: rest =>
    if key < k then (key, value) :: (k, v) :: rest
    else if key = k then (key, value) :: rest
    else (k, v) :: insert key value rest

/-- The entries of a list in key order; of a repeated key the last value stays. -/
def ofList (entries : List (String × α)) : List (String × α) :=
  entries.foldl (fun m e => insert e.1 e.2 m) []

theorem mem_insert_key {key : String} {value : α} {m : List (String × α)} {e : String × α}
    (h : e ∈ insert key value m) : e = (key, value) ∨ e ∈ m := by
  induction m with
  | nil => simpa [insert] using h
  | cons a rest ih =>
    obtain ⟨k, v⟩ := a
    unfold insert at h
    split at h
    · simpa using h
    · split at h
      · rcases List.mem_cons.mp h with h | h
        · exact .inl h
        · exact .inr (List.mem_cons_of_mem _ h)
      · rcases List.mem_cons.mp h with h | h
        · exact .inr (h ▸ List.mem_cons_self)
        · exact (ih h).imp id (List.mem_cons_of_mem _)

theorem lt_of_not_lt_of_ne {a b : String} (h : ¬ a < b) (hne : a ≠ b) : b < a := by
  rcases Decidable.em (b < a) with hlt | hlt
  · exact hlt
  · exact absurd (String.le_antisymm hlt h) hne

theorem Sorted.insert {key : String} {value : α} {m : List (String × α)} (h : Sorted m) :
    Sorted (Keyed.insert key value m) := by
  induction m with
  | nil => simp [Keyed.insert, Sorted]
  | cons a rest ih =>
    obtain ⟨k, v⟩ := a
    have hrest : Sorted rest := (List.pairwise_cons.mp h).2
    have hk : ∀ e ∈ rest, k < e.1 := (List.pairwise_cons.mp h).1
    unfold Keyed.insert
    split
    · next hlt =>
      refine List.pairwise_cons.mpr ⟨fun e he => ?_, h⟩
      rcases List.mem_cons.mp he with rfl | he
      · exact hlt
      · exact String.lt_trans hlt (hk e he)
    · next hlt =>
      split
      · next heq => exact List.pairwise_cons.mpr ⟨fun e he => heq ▸ hk e he, hrest⟩
      · next hne =>
        refine List.pairwise_cons.mpr ⟨fun e he => ?_, ih hrest⟩
        rcases mem_insert_key he with rfl | he
        · exact lt_of_not_lt_of_ne hlt hne
        · exact hk e he

theorem sorted_foldl_insert (entries m : List (String × α)) (h : Sorted m) :
    Sorted (entries.foldl (fun m e => insert e.1 e.2 m) m) := by
  induction entries generalizing m with
  | nil => exact h
  | cons e entries ih => exact ih _ h.insert

theorem sorted_ofList (entries : List (String × α)) : Sorted (ofList entries) :=
  sorted_foldl_insert entries [] List.Pairwise.nil

/-- A fresh key adds one entry. -/
theorem insert_perm {key : String} {value : α} {m : List (String × α)}
    (h : key ∉ m.map Prod.fst) : (insert key value m).Perm ((key, value) :: m) := by
  induction m with
  | nil => exact .refl _
  | cons a rest ih =>
    obtain ⟨k, v⟩ := a
    obtain ⟨hne, hrest⟩ : key ≠ k ∧ key ∉ rest.map Prod.fst := by simpa using h
    rw [insert, if_neg hne]
    split
    · exact .refl _
    · exact ((ih hrest).cons _).trans (.swap _ _ _)

theorem foldl_insert_perm {entries m : List (String × α)}
    (h : ((entries ++ m).map Prod.fst).Nodup) :
    (entries.foldl (fun m e => insert e.1 e.2 m) m).Perm (entries ++ m) := by
  induction entries generalizing m with
  | nil => exact .refl _
  | cons e entries ih =>
    have hins : (insert e.1 e.2 m).Perm (e :: m) := by
      refine insert_perm fun hm => ?_
      simp only [List.cons_append, List.map_cons, List.map_append, List.nodup_cons,
        List.mem_append, not_or] at h
      exact h.1.2 hm
    have hmoved : (entries ++ insert e.1 e.2 m).Perm (e :: entries ++ m) :=
      (hins.append_left entries).trans List.perm_middle
    have hnodup : ((entries ++ insert e.1 e.2 m).map Prod.fst).Nodup :=
      (hmoved.map Prod.fst).nodup_iff.mpr h
    exact (ih hnodup).trans hmoved

/-- Entries with distinct keys all stay. -/
theorem ofList_perm {entries : List (String × α)} (h : (entries.map Prod.fst).Nodup) :
    (ofList entries).Perm entries := by
  have hperm := @foldl_insert_perm _ entries [] (by simpa using h)
  rwa [List.append_nil] at hperm

theorem Sorted.nodup {m : List (String × α)} (h : Sorted m) : (m.map Prod.fst).Nodup := by
  refine List.pairwise_map.mpr (h.imp fun {a b} hlt heq => ?_)
  rw [heq] at hlt
  exact String.lt_irrefl _ hlt

/-- Entries in key order stay as they are. -/
theorem ofList_of_sorted {entries : List (String × α)} (h : Sorted entries) :
    ofList entries = entries := by
  refine (ofList_perm h.nodup).eq_of_pairwise (fun a b _ _ hab hba => ?_) (sorted_ofList entries) h
  exact absurd (String.lt_trans hab hba) (String.lt_irrefl _)

end Keyed

/-! ### Dictionaries -/

/-- A dictionary in key order. -/
structure Dictionary (α : Type) where
  /-- Keys and their values. -/
  entries : List (String × α)
  /-- Keys strictly increase. -/
  sorted : Keyed.Sorted entries
  deriving DecidableEq

namespace Dictionary

variable {α : Type}

/-- The dictionary without keys. -/
def empty : Dictionary α := ⟨[], List.Pairwise.nil⟩

instance : Inhabited (Dictionary α) := ⟨empty⟩

/-- The dictionary of some entries; of a repeated key the last value stays. -/
def ofList (entries : List (String × α)) : Dictionary α :=
  ⟨Keyed.ofList entries, Keyed.sorted_ofList entries⟩

@[simp] theorem ofList_entries (d : Dictionary α) : ofList d.entries = d := by
  obtain ⟨entries, h⟩ := d
  simp [ofList, Keyed.ofList_of_sorted h]

end Dictionary

end QuizClient
