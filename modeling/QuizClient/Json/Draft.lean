import QuizClient.Json.Token

/-!
# Drafts: JSON trees that may break off

A draft is the tree of a JSON text as far as the text goes.  Reading a draft
never fails: where the text stops being JSON the tree holds `Draft.broken`, as
the value, the item or the member that was due there.  A reader that works in
text order thus meets everything in front of that place first.

## Main definitions

* `Draft` — the tree.
* `Draft.whole` — the text did not break off.
* `Draft.ofTokens`, `Draft.ofText` — the draft of a text, and whether the text
  ends with it.
-/

namespace QuizClient.Json

/-- The tree of a JSON text as far as the text goes.  A string has no content
when an escape leaves half of a surrogate pair. -/
inductive Draft where
  /-- The word `null`. -/
  | null
  /-- The word `true` or `false`. -/
  | bool (value : Bool)
  /-- A number. -/
  | number (value : Number)
  /-- A string. -/
  | string (content : Option String)
  /-- Items in text order. -/
  | array (items : List Draft)
  /-- Members in text order, repeated keys included. -/
  | object (members : List (Option String × Draft))
  /-- The place where the text stops being JSON. -/
  | broken
  deriving Repr

namespace Draft

/-! ### Wholeness -/

mutual

/-- Whether the text did not break off inside a value. -/
def whole : Draft → Bool
  | .broken => false
  | .array items => wholeItems items
  | .object members => wholeMembers members
  | _ => true

/-- Whether the text did not break off inside some items. -/
def wholeItems : List Draft → Bool
  | [] => true
  | item :: items => item.whole && wholeItems items

/-- Whether the text did not break off inside some members. -/
def wholeMembers : List (Option String × Draft) → Bool
  | [] => true
  | (_, value) :: members => value.whole && wholeMembers members

end

/-! ### Reading -/

/-- A container that is still open, with what it holds so far, last first. -/
inductive Frame where
  /-- An array. -/
  | items (done : List Draft)
  /-- An object, with the key of the value that is due. -/
  | members (done : List (Option String × Draft)) (key : Option String)
  deriving Repr

/-- The container with a last value. -/
def Frame.close : Frame → Draft → Draft
  | .items done, d => .array (d :: done).reverse
  | .members done key, d => .object ((key, d) :: done).reverse

/-- The container with a value in it and the next one due. -/
def Frame.hold : Frame → Draft → Frame
  | .items done, d => .items (d :: done)
  | .members done key, d => .members ((key, d) :: done) none

/-- The draft of a text that breaks off where a value is due. -/
def abandon (stack : List Frame) : Draft := stack.foldl (fun d f => f.close d) .broken

mutual

/-- Reads a value inside the open containers.  The second component is what
follows the outermost value, `none` when the text breaks off inside it. -/
def value (stack : List Frame) : List Token → Draft × Option (List Token)
  | .null :: ts => behind stack .null ts
  | .bool b :: ts => behind stack (.bool b) ts
  | .number n :: ts => behind stack (.number n) ts
  | .string s :: ts => behind stack (.string s) ts
  | .openBracket :: .closeBracket :: ts => behind stack (.array []) ts
  | .openBracket :: ts => value (.items [] :: stack) ts
  | .openBrace :: .closeBrace :: ts => behind stack (.object []) ts
  | .openBrace :: ts => member stack [] ts
  | _ => (abandon stack, none)

/-- Reads a key and its colon, then the value, of an object with the members
`done` so far. -/
def member (stack : List Frame) (done : List (Option String × Draft)) :
    List Token → Draft × Option (List Token)
  | .string key :: .colon :: ts => value (.members done key :: stack) ts
  | .string key :: _ => (abandon (.members done key :: stack), none)
  | _ => (abandon (.members done none :: stack), none)

/-- Reads on behind a value. -/
def behind (stack : List Frame) (d : Draft) : List Token → Draft × Option (List Token)
  | [] =>
    match stack with
    | [] => (d, some [])
    | f :: stack => (abandon (f.hold d :: stack), none)
  | t :: ts =>
    match stack with
    | [] => (d, some (t :: ts))
    | .items done :: stack =>
      match t with
      | .comma => value (.items (d :: done) :: stack) ts
      | .closeBracket => behind stack (.array (d :: done).reverse) ts
      | _ => (abandon (Frame.hold (.items done) d :: stack), none)
    | .members done key :: stack =>
      match t with
      | .comma => member stack ((key, d) :: done) ts
      | .closeBrace => behind stack (.object ((key, d) :: done).reverse) ts
      | _ => (abandon (Frame.hold (.members done key) d :: stack), none)

end

/-- The draft that some tokens begin with, and whether they end with it. -/
def ofTokens (ts : List Token) : Draft × Bool :=
  let (d, rest) := value [] ts
  (d, rest == some [])

/-- The draft that a text begins with, and whether the text ends with it. -/
def ofText (s : String) : Draft × Bool := ofTokens (tokens s)

end Draft

end QuizClient.Json
