import QuizClient.Dictionary
import QuizClient.Json.Fault

/-!
# JSON values

A value is a draft that is whole and that holds nothing out of bounds: no number
beyond the doubles, no half of a surrogate pair, no nesting beyond a limit.  Its
objects are in key order, and of a repeated key the last value stays.

## Main definitions

* `Value` — a JSON value.
* `Draft.keep?` — the value of a draft.
* `Value.found`, `Draft.found` — what a reader of a scalar sees.
* `Value.chars`, `Value.text` — the compact text of a value.
-/

namespace QuizClient.Json

/-- A JSON value. -/
inductive Value where
  /-- The word `null`. -/
  | null
  /-- The word `true` or `false`. -/
  | bool (value : Bool)
  /-- A number. -/
  | number (value : Number)
  /-- A string. -/
  | string (content : String)
  /-- Items. -/
  | array (items : List Value)
  /-- Members. -/
  | object (members : List (String × Value))
  deriving Repr, Inhabited

/-! ### Keeping a draft -/

namespace Draft

mutual

/-- The value of a draft whose containers nest at most `depth` levels. -/
def keep? (depth : Nat) : Draft → Option Value
  | .null => some .null
  | .bool b => some (.bool b)
  | .number n => if n.inRange then some (.number n) else none
  | .string content => content.map .string
  | .array items =>
    match depth with
    | 0 => none
    | depth + 1 => (keepItems? depth items).map .array
  | .object members =>
    match depth with
    | 0 => none
    | depth + 1 => (keepMembers? depth members).map fun ms => .object (Keyed.ofList ms)
  | .broken => none

/-- The values of some items. -/
def keepItems? (depth : Nat) : List Draft → Option (List Value)
  | [] => some []
  | d :: ds => do
    let v ← keep? depth d
    let vs ← keepItems? depth ds
    pure (v :: vs)

/-- The values of some members, in text order. -/
def keepMembers? (depth : Nat) : List (Option String × Draft) → Option (List (String × Value))
  | [] => some []
  | (key, d) :: ds => do
    let k ← key
    let v ← keep? depth d
    let vs ← keepMembers? depth ds
    pure ((k, v) :: vs)

end

end Draft

/-! ### What a reader of a scalar sees -/

/-- What a value is. -/
def Value.found : Value → Found
  | .null => .null
  | .bool b => .bool b
  | .number n => .number n
  | .string s => .string s
  | .array _ => .array
  | .object _ => .object

/-- What a draft is, as far as it can be told without reading containers. -/
def Draft.found : Draft → Except Fault Found
  | .null => .ok .null
  | .bool b => .ok (.bool b)
  | .number n => if n.inRange then .ok (.number n) else .error .malformed
  | .string (some s) => .ok (.string s)
  | .string none => .error .malformed
  | .array _ => .ok .array
  | .object _ => .ok .object
  | .broken => .error .malformed

/-! ### Writing -/

namespace Value

mutual

/-- The compact text of a value. -/
def chars : Value → List Char
  | .null => "null".toList
  | .bool true => "true".toList
  | .bool false => "false".toList
  | .number n => n.chars
  | .string s => Text.Quoted.json s
  | .array [] => ['[', ']']
  | .array (v :: vs) => '[' :: v.chars ++ charsItems vs
  | .object [] => ['\x7b', '\x7d']
  | .object ((k, v) :: ms) =>
    '\x7b' :: Text.Quoted.json k ++ ':' :: v.chars ++ charsMembers ms

/-- The items behind the first, and the closing bracket. -/
def charsItems : List Value → List Char
  | [] => [']']
  | v :: vs => ',' :: v.chars ++ charsItems vs

/-- The members behind the first, and the closing brace. -/
def charsMembers : List (String × Value) → List Char
  | [] => ['\x7d']
  | (k, v) :: ms => ',' :: Text.Quoted.json k ++ ':' :: v.chars ++ charsMembers ms

end

/-- The compact text of a value. -/
def text (v : Value) : String := String.ofList v.chars

/-- A value with an integer. -/
def ofInt (i : Int) : Value := .number (.integer i)

/-- The value under a key of an object. -/
def get? (key : String) : Value → Option Value
  | .object members => members.lookup key
  | _ => none

end Value

end QuizClient.Json
