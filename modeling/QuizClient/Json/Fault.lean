import QuizClient.Json.Draft
import QuizClient.Text.Quoted

/-!
# Why a JSON text or value is refused

## Main definitions

* `Found` — what stands in a place, as far as a reader of a scalar looks.
* `Expected` — what a reader wants there.
* `Fault` — why a text or value is refused.
* `Fault.message` — the wording.
-/

namespace QuizClient.Json

/-- What stands in a place. -/
inductive Found where
  /-- The word `null`. -/
  | null
  /-- The word `true` or `false`. -/
  | bool (value : Bool)
  /-- A number within range. -/
  | number (value : Number)
  /-- A string. -/
  | string (content : String)
  /-- An array. -/
  | array
  /-- An object. -/
  | object
  deriving DecidableEq, Repr

/-- What a reader wants in a place. -/
inductive Expected where
  /-- A string. -/
  | string
  /-- The word `true` or `false`. -/
  | bool
  /-- A whole number of 64 signed bits. -/
  | signed
  /-- A whole number of 64 unsigned bits. -/
  | unsigned
  /-- A list. -/
  | list
  /-- An object used as a dictionary. -/
  | dictionary
  /-- A record, by its name. -/
  | record (name : String)
  deriving DecidableEq, Repr

/-- Why a text or value is refused. -/
inductive Fault where
  /-- The text is not JSON, or holds what no value may hold. -/
  | malformed
  /-- Another kind of value stands in the place. -/
  | wrongKind (found : Found) (expected : Expected)
  /-- An integer stands in the place and does not fit. -/
  | doesNotFit (found : Int) (expected : Expected)
  /-- A required member is absent. -/
  | missing (key : String)
  /-- A member of a record comes twice. -/
  | repeated (key : String)
  /-- A record written as an array ends before a required field. -/
  | tooShort (length : Nat) (record : String) (size : Nat)
  /-- A record written as an array has more items than fields. -/
  | tooLong (length : Nat)
  /-- No phase of play has this number. -/
  | unknownPhase (code : UInt64)
  /-- No round of play has this number. -/
  | unknownRound (code : UInt64)
  deriving DecidableEq, Repr

/-- The words for a value in a message. -/
def Found.message : Found → String
  | .null => "null"
  | .bool b => s!"boolean `{b}`"
  | .number (.integer i) => s!"integer `{String.ofList (Text.decimalInt i)}`"
  | .number n => s!"floating point `{String.ofList n.chars}`"
  | .string s => s!"string {String.ofList (Text.Quoted.message s)}"
  | .array => "sequence"
  | .object => "map"

/-- The words for a wish in a message. -/
def Expected.message : Expected → String
  | .string => "a string"
  | .bool => "a boolean"
  | .signed => "i64"
  | .unsigned => "u64"
  | .list => "a sequence"
  | .dictionary => "a map"
  | .record name => s!"struct {name}"

/-- The wording of a fault.  The one for a malformed text is fixed; it stands for the message of
the JSON library that reads the text, which also tells the position. -/
def Fault.message : Fault → String
  | .malformed => "invalid JSON"
  | .wrongKind found expected =>
    s!"invalid type: {found.message}, expected {expected.message}"
  | .doesNotFit i expected =>
    s!"invalid value: integer `{String.ofList (Text.decimalInt i)}`, expected {expected.message}"
  | .missing key => s!"missing field `{key}`"
  | .repeated key => s!"duplicate field `{key}`"
  | .tooShort length record size =>
    s!"invalid length {length}, expected struct {record} with {size} elements"
  | .tooLong length => s!"invalid length {length}, expected fewer elements in array"
  | .unknownPhase code => s!"unrecognized game phase {code}"
  | .unknownRound code => s!"unrecognized round {code}"

end QuizClient.Json
