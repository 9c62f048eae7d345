import QuizClient.Json.Value

/-!
# Codecs

A codec reads a type from a JSON value and writes it back.

## Main definitions

* `Found.string`, `Found.bool`, `Found.signed`, `Found.unsigned` — scalars.
* `Codec` — a reader and a writer of one type.
* `Codec.list`, `Codec.optional`, `Codec.orBlank`, `Codec.dictionary` — codecs of
  compound types; `orBlank` also takes `null`, for the blank value.
-/

namespace QuizClient.Json

/-! ### Scalars -/

namespace Found

/-- The content of a string. -/
def toString? : Found → Except Fault String
  | .string s => .ok s
  | found => .error (.wrongKind found .string)

/-- The value of `true` or `false`. -/
def toBool? : Found → Except Fault Bool
  | .bool b => .ok b
  | found => .error (.wrongKind found .bool)

/-- An integer of 64 signed bits. -/
def toSigned? : Found → Except Fault Int64
  | .number (.integer i) =>
    if Int64.minValue.toInt ≤ i ∧ i ≤ Int64.maxValue.toInt then .ok (Int64.ofInt i)
    else .error (.doesNotFit i .signed)
  | found => .error (.wrongKind found .signed)

/-- An integer of 64 unsigned bits. -/
def toUnsigned? : Found → Except Fault UInt64
  | .number (.integer i) =>
    if 0 ≤ i ∧ i < UInt64.size then .ok (UInt64.ofNat i.toNat) else .error (.doesNotFit i .unsigned)
  | found => .error (.wrongKind found .unsigned)

end Found

/-- Of two readers in a row that succeed both do. -/
theorem exists_of_bind_eq_ok {ε α β : Type} {x : Except ε α} {f : α → Except ε β} {b : β}
    (h : x >>= f = .ok b) : ∃ a, x = .ok a ∧ f a = .ok b := by
  cases x with
  | error e => cases h
  | ok a => exact ⟨a, rfl, h⟩

theorem exists_of_map_eq_ok {ε α β : Type} {f : α → β} {x : Except ε α} {b : β}
    (h : f <$> x = .ok b) : ∃ a, x = .ok a ∧ f a = b := by
  cases x with
  | error e => cases h
  | ok a => exact ⟨a, rfl, Except.ok.inj h⟩

/-! ### Codecs -/

/-- A reader and a writer of one type. -/
structure Codec (α : Type) where
  /-- Reads a value. -/
  read : Value → Except Fault α
  /-- Writes a value. -/
  write : α → Value

namespace Codec

/-- Strings. -/
def string : Codec String where
  read v := v.found.toString?
  write := .string

/-- Truth values. -/
def bool : Codec Bool where
  read v := v.found.toBool?
  write := .bool

/-- Integers of 64 signed bits. -/
def signed : Codec Int64 where
  read v := v.found.toSigned?
  write i := .ofInt i.toInt

/-- Integers of 64 unsigned bits. -/
def unsigned : Codec UInt64 where
  read v := v.found.toUnsigned?
  write n := .ofInt n.toNat

/-- Lists. -/
def list {α : Type} (c : Codec α) : Codec (List α) where
  read
    | .array items => items.mapM c.read
    | v => .error (.wrongKind v.found .list)
  write xs := .array (xs.map c.write)

/-- What may be absent, with `null` for absence. -/
def optional {α : Type} (c : Codec α) : Codec (Option α) where
  read
    | .null => .ok none
    | v => some <$> c.read v
  write
    | none => .null
    | some a => c.write a

/-- What `null` leaves blank. -/
def orBlank {α : Type} (c : Codec α) (blank : α) : Codec α where
  read
    | .null => .ok blank
    | v => c.read v
  write := c.write

/-- Dictionaries, as objects. -/
def dictionary {α : Type} (c : Codec α) : Codec (Dictionary α) where
  read
    | .object members =>
      Dictionary.ofList <$> members.mapM fun (k, v) => (k, ·) <$> c.read v
    | v => .error (.wrongKind v.found .dictionary)
  write d := .object (d.entries.map fun (k, a) => (k, c.write a))

end Codec

end QuizClient.Json
