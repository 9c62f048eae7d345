import QuizClient.Json.Codec

/-!
# Records

A record is read field by field, from the members of an object in the order in
which they stand, or from the items of an array in the order of the fields.
The first fault met decides.  Members that no field answers to are passed over;
a required field that never came is a fault at the end of the object, the first
of them in the order of the fields.

The same rules serve records read from a kept value, whose members are in key
order, and records read straight from a draft, in text order.

## Main definitions

* `Field`, `Record` — how a record is read from inputs of some type.
* `Record.ofValue` — a record from a value.
* `Record.ofDraft` — a record from a draft.
* `Member`, `Shape` — a record of values that can also be written.
-/

namespace QuizClient.Json

/-! ### Fields -/

/-- A field of a record of type `σ` read from inputs of type `ι`. -/
structure Field (ι σ : Type) where
  /-- The key of the field. -/
  key : String
  /-- Another key that stands for it. -/
  alias? : Option String
  /-- Whether the field must come. -/
  required : Bool
  /-- Reads the field into a record. -/
  store : ι → σ → Except Fault σ

/-- Whether a key stands for a field. -/
def Field.answers {ι σ : Type} (f : Field ι σ) (key : String) : Bool :=
  f.key == key || f.alias? == some key

/-- How a record is read. -/
structure Record (ι σ : Type) where
  /-- The name of the record in messages. -/
  name : String
  /-- The record in which every field is absent. -/
  blank : σ
  /-- The fields in order. -/
  fields : List (Field ι σ)

/-- A record of which some fields have been read. -/
structure Progress (σ : Type) where
  /-- The record so far. -/
  value : σ
  /-- The keys of the fields read. -/
  seen : List String

namespace Record

variable {ι σ : Type}

/-- No field read. -/
def start (r : Record ι σ) : Progress σ := ⟨r.blank, []⟩

/-- Reads one member; a member that no field answers to must pass `skip`. -/
def member (r : Record ι σ) (skip : ι → Except Fault Unit) (p : Progress σ) (key : String)
    (input : ι) : Except Fault (Progress σ) :=
  match r.fields.find? (·.answers key) with
  | none => (fun _ => p) <$> skip input
  | some f =>
    if p.seen.contains f.key then .error (.repeated f.key)
    else (⟨·, f.key :: p.seen⟩) <$> f.store input p.value

/-- The record, once every required field has come. -/
def finish (r : Record ι σ) (p : Progress σ) : Except Fault σ :=
  match r.fields.find? fun f => f.required && !p.seen.contains f.key with
  | some f => .error (.missing f.key)
  | none => .ok p.value

/-- Reads items into the fields from the `i`-th on. A record may end early when
no required field is left; `excess` is the fault of a record with too many items. -/
def items (r : Record ι σ) (excess : Fault) :
    List (Field ι σ) → (i : Nat) → List ι → σ → Except Fault σ
  | [], _, [], s => .ok s
  | [], _, _ :: _, _ => .error excess
  | f :: fs, i, [], s =>
    if f.required then .error (.tooShort i r.name r.fields.length)
    else r.items excess fs (i + 1) [] s
  | f :: fs, i, input :: inputs, s => do
    let s ← f.store input s
    r.items excess fs (i + 1) inputs s

end Record

/-! ### Records of values -/

/-- The record that a value holds. -/
def Record.ofValue {σ : Type} (r : Record Value σ) : Value → Except Fault σ
  | .object members => do
    let p ← members.foldlM (fun p (key, v) => r.member (fun _ => .ok ()) p key v) r.start
    r.finish p
  | .array vs => r.items (.tooLong vs.length) r.fields 0 vs r.blank
  | v => .error (.wrongKind v.found (.record r.name))

/-- A field of a record of values, with how it is written. -/
structure Member (σ : Type) extends Field Value σ where
  /-- Writes the field of a record. -/
  fetch : σ → Value

/-- The member of a field that may be absent. -/
def Codec.member {α σ : Type} (c : Codec α) (key : String) (get : σ → α) (set : α → σ → σ) :
    Member σ where
  key := key
  alias? := none
  required := false
  store v s := (set · s) <$> c.read v
  fetch s := c.write (get s)

/-- The member as one that must come. -/
def Member.needed {σ : Type} (m : Member σ) : Member σ := { m with required := true }

/-- The member with another key that stands for it. -/
def Member.orKey {σ : Type} (m : Member σ) (key : String) : Member σ :=
  { m with alias? := some key }

/-- A record of values that can be read and written. -/
structure Shape (σ : Type) where
  /-- The name of the record in messages. -/
  name : String
  /-- The record in which every field is absent. -/
  blank : σ
  /-- The fields in order. -/
  members : List (Member σ)

namespace Shape

variable {σ : Type}

/-- How a record of a shape is read. -/
def record (s : Shape σ) : Record Value σ where
  name := s.name
  blank := s.blank
  fields := s.members.map Member.toField

/-- The codec of a shape: reads an object or an array, writes an object with
every field. -/
def codec (s : Shape σ) : Codec σ where
  read := s.record.ofValue
  write a := .object (s.members.map fun m => (m.key, m.fetch a))

end Shape

/-! ### Records of drafts -/

/-- A member that is passed over must still be JSON. -/
def Draft.skip (d : Draft) : Except Fault Unit :=
  if d.whole then .ok () else .error .malformed

/-- The record that a draft holds, read in text order. -/
def Record.ofDraft {σ : Type} (r : Record Draft σ) : Draft → Except Fault σ
  | .object members => do
    let p ← members.foldlM
      (fun p (key, d) =>
        match key with
        | some key => r.member Draft.skip p key d
        | none => .error .malformed)
      r.start
    r.finish p
  | .array ds => r.items .malformed r.fields 0 ds r.blank
  | d => do
    let found ← d.found
    .error (.wrongKind found (.record r.name))

/-- A field read from a draft. -/
def Draft.field {α σ : Type} (key : String) (read : Draft → Except Fault α) (set : α → σ → σ) :
    Field Draft σ where
  key := key
  alias? := none
  required := false
  store d s := (set · s) <$> read d

/-- The record that a text holds and nothing else. -/
def Draft.readText {α : Type} (read : Draft → Except Fault α) (s : String) : Except Fault α := do
  let (d, ended) := Draft.ofText s
  let a ← read d
  if ended then .ok a else .error .malformed

end QuizClient.Json
