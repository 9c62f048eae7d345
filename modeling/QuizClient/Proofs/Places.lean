import Mathlib.Data.List.Nodup
import QuizClient.Game.Snapshot
import QuizClient.Proofs.Reach

/-!
# Records in snapshots

A game holds players, categories and clues, a category clues, a clue answers and an answer a
player.  Each of them is a record of its own: an object with fields, or an array with the
fields in order.  A place in a snapshot leads from the record of a game or of a player down to
one of the records in it.

What stands in a place is read as the record that the snapshot has there, and the rest of the
snapshot does not depend on it.

## Main definitions

* `Kind` — the kinds of records, each with its shape.
* `Link` — a field of one kind of record that holds records of another kind.
* `Frame`, `Slot` — what surrounds a field in its record, and an item in its list.
* `Place` — a place of a record inside a record.
* `Place.plug`, `Place.modify` — a value in the place, a change of the record there.

## Main results

* `Place.reaches` — **the record in a place is read by itself.**
-/

namespace QuizClient

open Json

/-! ### Kinds of records -/

/-- The kinds of records in a snapshot. -/
inductive Kind where
  /-- A game. -/
  | game
  /-- A player. -/
  | player
  /-- A category. -/
  | category
  /-- A clue. -/
  | clue
  /-- An answer. -/
  | answer
  deriving DecidableEq, Repr

namespace Kind

/-- The records of a kind. -/
abbrev Rec : Kind → Type
  | game => Game
  | player => Player
  | category => Category
  | clue => Clue
  | answer => Answer

/-- The fields of a kind. -/
def shape : (k : Kind) → Shape k.Rec
  | game => Game.shape
  | player => Player.shape
  | category => Category.shape
  | clue => Clue.shape
  | answer => Answer.shape

/-- Records of a kind on the wire. -/
def codec (k : Kind) : Codec k.Rec := k.shape.codec

end Kind

/-! ### Records in records -/

/-- The fields that hold records. -/
inductive Link : Kind → Kind → Type where
  /-- The players of a game. -/
  | players : Link .game .player
  /-- The board of the first round. -/
  | firstBoard : Link .game .category
  /-- The board of the second round. -/
  | secondBoard : Link .game .category
  /-- The clue of the final round. -/
  | finalClue : Link .game .clue
  /-- The open clue. -/
  | clue : Link .game .clue
  /-- Who answered last. -/
  | lastToAnswer : Link .game .player
  /-- The clues of a category. -/
  | clues : Link .category .clue
  /-- The answer being ruled on. -/
  | current : Link .clue .answer
  /-- The answers so far. -/
  | answers : Link .clue .answer
  /-- The answer whose ruling is challenged. -/
  | disputed : Link .clue .answer
  /-- Who answered. -/
  | player : Link .answer .player

namespace Link

variable {k m : Kind}

/-- The keys of the field. -/
def keys : Link k m → List String
  | players => ["players"]
  | firstBoard => ["firstRound"]
  | secondBoard => ["secondRound"]
  | finalClue => ["finalQuestion"]
  | clue => ["curQuestion"]
  | lastToAnswer => ["lastToAnswer", "lastAnswerer"]
  | clues => ["questions"]
  | current => ["curAns"]
  | answers => ["answers"]
  | disputed => ["curDisputed"]
  | player => ["player"]

/-- How many fields come before it. -/
def position : Link k m → Nat
  | players => 3
  | firstBoard => 4
  | secondBoard => 5
  | finalClue => 6
  | clue => 7
  | lastToAnswer => 20
  | clues => 1
  | current => 6
  | answers => 7
  | disputed => 8
  | player => 0

/-- Whether it holds a list of records. -/
def many : Link k m → Bool
  | players | firstBoard | secondBoard | clues | answers => true
  | finalClue | clue | lastToAnswer | current | disputed | player => false

/-- Changes the record that the field holds, or the `i`-th of them. -/
def modify : Link k m → (i : Nat) → (m.Rec → m.Rec) → k.Rec → k.Rec
  | players, i, edit => fun g => { g with players := g.players.modify i edit }
  | firstBoard, i, edit => fun g => { g with firstBoard := g.firstBoard.modify i edit }
  | secondBoard, i, edit => fun g => { g with secondBoard := g.secondBoard.modify i edit }
  | finalClue, _, edit => fun g => { g with finalClue := edit g.finalClue }
  | clue, _, edit => fun g => { g with clue := edit g.clue }
  | lastToAnswer, _, edit => fun g => { g with lastToAnswer := g.lastToAnswer.map edit }
  | clues, i, edit => fun c => { c with clues := c.clues.modify i edit }
  | current, _, edit => fun c => { c with current := c.current.map edit }
  | answers, i, edit => fun c => { c with answers := c.answers.modify i edit }
  | disputed, _, edit => fun c => { c with disputed := c.disputed.map edit }
  | player, _, edit => fun r => { r with player := edit r.player }

end Link

/-! ### Places -/

/-- What surrounds a field in its record: the other members of an object, in which the field
stands under one of its keys, or the other items of an array, in which it has a position. -/
inductive Frame (keys : List String) (position : Nat) where
  /-- A member of an object. -/
  | object (before after : List (String × Value)) (key : String) (mem : key ∈ keys)
  /-- An item of an array. -/
  | array (before after : List Value) (place : before.length = position)

/-- The record with a value for its field. -/
def Frame.plug {keys : List String} {position : Nat} : Frame keys position → Value → Value
  | object before after key _, x => .object (before ++ (key, x) :: after)
  | array before after _, x => .array (before ++ x :: after)

/-- What surrounds a record in its field: nothing, or the other items of a list. -/
inductive Slot : (many : Bool) → Type where
  /-- The record alone. -/
  | alone : Slot false
  /-- An item of a list. -/
  | among (before after : List Value) : Slot true

namespace Slot

/-- The field with a value for its record. -/
def plug : {many : Bool} → Slot many → Value → Value
  | _, alone, x => x
  | _, among before after, x => .array (before ++ x :: after)

/-- How many records stand in front. -/
def index : {many : Bool} → Slot many → Nat
  | _, alone => 0
  | _, among before _ => before.length

end Slot

/-- A place in a record of one kind for a record of another, or of the same, kind. -/
inductive Place : Kind → Kind → Type where
  /-- The record itself. -/
  | here {k : Kind} : Place k k
  /-- A place in a record that a field holds. -/
  | inside {k m t : Kind} (link : Link k m) (frame : Frame link.keys link.position)
      (slot : Slot link.many) (inner : Place m t) : Place k t

namespace Place

/-- The record with a value in the place. -/
def plug : {k t : Kind} → Place k t → Value → Value
  | _, _, here, x => x
  | _, _, inside _ frame slot inner, x => frame.plug (slot.plug (inner.plug x))

/-- Changes the record in the place, and nothing else. -/
def modify : {k t : Kind} → Place k t → (t.Rec → t.Rec) → k.Rec → k.Rec
  | _, _, here, edit => edit
  | _, _, inside link _ slot inner, edit => link.modify slot.index (inner.modify edit)

end Place

/-! ### Reading a place -/

/-- No key stands for two fields. -/
def Json.Shape.Unambiguous {σ : Type} (s : Shape σ) : Prop :=
  s.members.Pairwise fun m m' => ∀ key ∈ m'.key :: m'.alias?.toList, m.answers key = false

instance {σ : Type} (s : Shape σ) : Decidable s.Unambiguous :=
  inferInstanceAs (Decidable (s.members.Pairwise fun m m' =>
    ∀ key ∈ m'.key :: m'.alias?.toList, m.answers key = false))

theorem Json.Field.mem_keys_of_answers {ι σ : Type} {f : Field ι σ} {key : String}
    (h : f.answers key = true) : key ∈ f.key :: f.alias?.toList := by
  rw [Field.answers, Bool.or_eq_true, beq_iff_eq, beq_iff_eq] at h
  rcases h with rfl | halias
  · exact List.mem_cons_self
  · simp [halias]

theorem Json.Field.answers_of_mem_keys {ι σ : Type} {f : Field ι σ} {key : String}
    (h : key ∈ f.key :: f.alias?.toList) : f.answers key = true := by
  rw [Field.answers, Bool.or_eq_true, beq_iff_eq, beq_iff_eq]
  rcases List.mem_cons.mp h with rfl | halias
  · exact .inl rfl
  · exact .inr (Option.mem_toList.mp halias)

/-- A field is found under each of its keys. -/
theorem Json.Shape.Unambiguous.find? {σ : Type} {s : Shape σ} (h : s.Unambiguous)
    {m : Member σ} (hm : m ∈ s.members) {key : String} (hkey : m.answers key = true) :
    s.record.fields.find? (·.answers key) = some m.toField := by
  have hsome : ∀ ms : List (Member σ), (ms.Pairwise fun m m' =>
      ∀ key ∈ m'.key :: m'.alias?.toList, m.answers key = false) → m ∈ ms →
      ms.find? (·.answers key) = some m := by
    intro ms h hm
    induction ms with
    | nil => cases hm
    | cons m' ms ih =>
      obtain ⟨hfirst, h⟩ := List.pairwise_cons.mp h
      rcases List.mem_cons.mp hm with rfl | hm
      · exact List.find?_cons_of_pos hkey
      · have hskip : m'.answers key = false :=
          hfirst m hm key (Field.mem_keys_of_answers hkey)
        rw [List.find?_cons_of_neg (by simp [hskip])]
        exact ih h hm
  rw [Shape.record, List.find?_map]
  exact congrArg (Option.map Member.toField) (hsome s.members h hm)

theorem Json.Shape.Unambiguous.keys_nodup {σ : Type} {s : Shape σ} (h : s.Unambiguous) :
    (s.record.fields.map (·.key)).Nodup := by
  have hdistinct : s.Distinct := h.imp fun hm => hm _ List.mem_cons_self
  have hkeys := hdistinct.keys_nodup
  rwa [Shape.record, List.map_map]

/-- Of fields with one key there is one. -/
theorem Json.Shape.Unambiguous.eq_of_key {σ : Type} {s : Shape σ} (h : s.Unambiguous)
    {f g : Field Value σ} (hf : f ∈ s.record.fields) (hg : g ∈ s.record.fields)
    (hkey : f.key = g.key) : f = g :=
  List.inj_on_of_nodup_map h.keys_nodup hf hg hkey

theorem Kind.unambiguous (k : Kind) : k.shape.Unambiguous := by
  cases k <;> decide +kernel

/-- The field of a shape has the position and the keys of a link and reads the records that
it holds by their codec. -/
structure Link.Sound {k m : Kind} (link : Link k m) (f : Member k.Rec) : Prop where
  /-- The field stands in its position. -/
  position : k.shape.members[link.position]? = some f
  /-- The first key is the key of the field. -/
  key : link.keys.head? = some f.key
  /-- The field has its keys. -/
  answers : ∀ key ∈ link.keys, f.answers key = true
  /-- The field reads the records that it holds. -/
  reaches : ∀ (slot : Slot link.many) (s : k.Rec),
    Reaches (f.store · s) m.codec.read slot.plug (link.modify slot.index)

section

variable {β σ : Type} {c : Codec β} {modify : Nat → (β → β) → σ → σ}

/-- A field that holds a list of records. -/
theorem Slot.reaches_list {set : List β → σ → σ}
    (hmodify : ∀ i edit as s, modify i edit (set as s) = set (as.modify i edit) s)
    (slot : Slot true) (s : σ) :
    Reaches (fun x => (set · s) <$> (c.list.orBlank []).read x) c.read slot.plug
      (modify slot.index) := by
  cases slot with
  | among before after =>
    have hitem := (orBlank_reaches c.list []).trans (list_reaches c before after)
    exact member_reaches hitem (hmodify before.length) s

/-- A field that holds one record. -/
theorem Slot.reaches_one {blank : β} {set : β → σ → σ}
    (hmodify : ∀ i edit a s, modify i edit (set a s) = set (edit a) s)
    (slot : Slot false) (s : σ) :
    Reaches (fun x => (set · s) <$> (c.orBlank blank).read x) c.read slot.plug
      (modify slot.index) := by
  cases slot
  exact member_reaches (orBlank_reaches c blank) (hmodify 0) s

/-- A field that may hold a record. -/
theorem Slot.reaches_optional {set : Option β → σ → σ}
    (hmodify : ∀ i edit o s, modify i edit (set o s) = set (o.map edit) s)
    (slot : Slot false) (s : σ) :
    Reaches (fun x => (set · s) <$> c.optional.read x) c.read slot.plug (modify slot.index) := by
  cases slot
  exact member_reaches (optional_reaches c) (hmodify 0) s

end

theorem Link.exists_sound {k m : Kind} (link : Link k m) : ∃ f, link.Sound f := by
  cases link with
  | players | firstBoard | secondBoard | clues | answers =>
    exact ⟨_, rfl, rfl, by decide, Slot.reaches_list fun _ _ _ _ => rfl⟩
  | finalClue | clue | player =>
    exact ⟨_, rfl, rfl, by decide, Slot.reaches_one fun _ _ _ _ => rfl⟩
  | lastToAnswer | current | disputed =>
    exact ⟨_, rfl, rfl, by decide, Slot.reaches_optional fun _ _ _ _ => rfl⟩

/-- No other field notices a change of the records that a field holds: the change and storing
another field set fields of their own. -/
theorem Link.forall_spares {k m : Kind} (link : Link k m) (i : Nat) (edit : m.Rec → m.Rec) :
    k.shape.members.Forall fun g =>
      link.keys.head? = some g.key ∨ g.Spares (link.modify i edit) := by
  cases link
  all_goals
    simp only [Kind.shape, Game.shape, Category.shape, Clue.shape, Answer.shape, List.Forall]
    repeat' first
      | exact .inr (Field.spares_of_store rfl fun _ _ => rfl)
      | exact .inl rfl
      | refine And.intro ?_ ?_

/-- What a field of a record holds is read by its codec. -/
theorem Link.reaches {k m : Kind} (link : Link k m) (frame : Frame link.keys link.position)
    (slot : Slot link.many) :
    Reaches k.codec.read m.codec.read (fun x => frame.plug (slot.plug x))
      (link.modify slot.index) := by
  obtain ⟨f, hf⟩ := link.exists_sound
  have hmem := List.mem_of_getElem? hf.position
  have howns : ∀ edit, k.shape.record.Owns f.toField (link.modify slot.index edit) := by
    intro edit g hg hne
    obtain ⟨g', hg', rfl⟩ := List.mem_map.mp hg
    rcases List.forall_iff_forall_mem.mp (link.forall_spares slot.index edit) g' hg' with
      hkey | hspare
    · exact absurd (Option.some.inj (hkey.symm.trans hf.key)) hne
    · exact hspare
  cases frame with
  | object before after key hkey =>
    have hfind := k.unambiguous.find? hmem (hf.answers key hkey)
    exact Record.object_reaches hfind (hf.reaches slot) howns before after
  | array before after hplace =>
    have hfield : k.shape.record.fields[before.length]? = some f.toField := by
      rw [hplace, Shape.record, List.getElem?_map, hf.position]
      rfl
    exact Record.array_reaches hfield k.unambiguous.keys_nodup (hf.reaches slot) howns after

/-- **The record in a place is read by itself**, and what is around it is read without it. -/
theorem Place.reaches {k t : Kind} (place : Place k t) :
    Reaches k.codec.read t.codec.read place.plug place.modify := by
  induction place with
  | here => exact .here _
  | inside link frame slot inner ih => exact (link.reaches frame slot).trans ih

end QuizClient
