import QuizClient.Json.Record
import QuizClient.Settings.Basic
import QuizClient.Text.Lines

/-!
# The settings document

Settings are written as a JSON object in which every key may be left out and
keeps its default then, in nested objects too.  A document that can be read must
also be sound: what is shown is shown for some time, nobody is given no time at
all, and the reading times do not cross.

## Main definitions

* `Document` — the numbers of a settings document.
* `Violation`, `Document.violations` — what is unsound about them.
* `Document.settings` — the settings they make.
* `Settings.ofText` — reads a document.
* `Settings.load` — the settings of a source, sound whatever the source holds.
-/

namespace QuizClient

open Json

/-! ### The numbers of a document -/

/-- Reading times in milliseconds. -/
structure PaceNumbers where
  /-- For each word. -/
  perWord : UInt64
  /-- The least. -/
  least : UInt64
  /-- The most. -/
  most : UInt64
  deriving DecidableEq, Repr

/-- Times in seconds. -/
structure LimitNumbers where
  /-- To choose a clue. -/
  pick : UInt64
  /-- To buzz. -/
  buzz : UInt64
  /-- To answer. -/
  answer : UInt64
  /-- To wager. -/
  wager : UInt64
  /-- To answer the final clue. -/
  finalAnswer : UInt64
  /-- To wager on the final clue. -/
  finalWager : UInt64
  /-- To vote on a ruling. -/
  vote : UInt64
  deriving DecidableEq, Repr

/-- The numbers of a settings document. -/
structure Document where
  /-- Milliseconds for which score changes stay up. -/
  scoreWindow : UInt64
  /-- Milliseconds for which a passing advisory stays up. -/
  advisoryWindow : UInt64
  /-- Reading times. -/
  pace : PaceNumbers
  /-- Times. -/
  limits : LimitNumbers
  deriving DecidableEq, Repr

namespace Document

/-- An integer of 64 unsigned bits. -/
def unsigned (d : Draft) : Except Fault UInt64 := d.found >>= Found.toUnsigned?

/-- The reading times of a document. -/
def paceRecord : Record Draft PaceNumbers where
  name := "RawBuzzBlock"
  blank := ⟨250, 1000, 5000⟩
  fields := [
    Draft.field "perWordMs" unsigned fun a p => { p with perWord := a },
    Draft.field "minMs" unsigned fun a p => { p with least := a },
    Draft.field "maxMs" unsigned fun a p => { p with most := a }]

/-- The times of a document. -/
def limitRecord : Record Draft LimitNumbers where
  name := "RawTimeouts"
  blank := ⟨10, 10, 10, 10, 30, 30, 10⟩
  fields := [
    Draft.field "pick" unsigned fun a l => { l with pick := a },
    Draft.field "buzz" unsigned fun a l => { l with buzz := a },
    Draft.field "answer" unsigned fun a l => { l with answer := a },
    Draft.field "wager" unsigned fun a l => { l with wager := a },
    Draft.field "finalAnswer" unsigned fun a l => { l with finalAnswer := a },
    Draft.field "finalWager" unsigned fun a l => { l with finalWager := a },
    Draft.field "vote" unsigned fun a l => { l with vote := a }]

/-- A settings document. -/
def record : Record Draft Document where
  name := "RawConfig"
  blank := ⟨3000, 5000, paceRecord.blank, limitRecord.blank⟩
  fields := [
    Draft.field "scoreDeltaWindowMs" unsigned fun a d => { d with scoreWindow := a },
    Draft.field "advisoryWindowMs" unsigned fun a d => { d with advisoryWindow := a },
    Draft.field "buzzBlock" paceRecord.ofDraft fun a d => { d with pace := a },
    Draft.field "timeouts" limitRecord.ofDraft fun a d => { d with limits := a }]

/-- The document in which every key is left out. -/
def default : Document := record.blank

/-- The document that a text holds. -/
def ofText (s : String) : Except Fault Document := Draft.readText record.ofDraft s

/-- The settings that the numbers of a document make. -/
def settings (d : Document) : Settings where
  scoreWindow := .ofMillis d.scoreWindow
  advisoryWindow := .ofMillis d.advisoryWindow
  pace := {
    perWord := .ofMillis d.pace.perWord
    least := .ofMillis d.pace.least
    most := .ofMillis d.pace.most }
  limits := {
    pick := .ofSeconds d.limits.pick
    buzz := .ofSeconds d.limits.buzz
    answer := .ofSeconds d.limits.answer
    wager := .ofSeconds d.limits.wager
    finalAnswer := .ofSeconds d.limits.finalAnswer
    finalWager := .ofSeconds d.limits.finalWager
    vote := .ofSeconds d.limits.vote }

end Document

/-! ### Soundness -/

/-- A number that must not be zero. -/
inductive Entry where
  /-- How long score changes stay up. -/
  | scoreWindow
  /-- How long a passing advisory stays up. -/
  | advisoryWindow
  /-- Time to choose a clue. -/
  | pick
  /-- Time to buzz. -/
  | buzz
  /-- Time to answer. -/
  | answer
  /-- Time to wager. -/
  | wager
  /-- Time to answer the final clue. -/
  | finalAnswer
  /-- Time to wager on the final clue. -/
  | finalWager
  /-- Time to vote on a ruling. -/
  | vote
  deriving DecidableEq, Repr

/-- Every number that must not be zero. -/
def Entry.all : List Entry :=
  [scoreWindow, advisoryWindow, pick, buzz, answer, wager, finalAnswer, finalWager, vote]

/-- The number of an entry. -/
def Document.entry (d : Document) : Entry → UInt64
  | .scoreWindow => d.scoreWindow
  | .advisoryWindow => d.advisoryWindow
  | .pick => d.limits.pick
  | .buzz => d.limits.buzz
  | .answer => d.limits.answer
  | .wager => d.limits.wager
  | .finalAnswer => d.limits.finalAnswer
  | .finalWager => d.limits.finalWager
  | .vote => d.limits.vote

/-- What is unsound about a document. -/
inductive Violation where
  /-- A number is zero. -/
  | zero (entry : Entry)
  /-- The least reading time exceeds the most. -/
  | crossed (least most : UInt64)
  deriving DecidableEq, Repr

/-- The wording of a violation, where it has one. -/
def Violation.message? : Violation → Option String
  | .zero _ => none
  | .crossed least most => some s!"buzz block min ({least} ms) exceeds max ({most} ms)"

/-- Everything that is unsound about a document. -/
def Document.violations (d : Document) : List Violation :=
  (Entry.all.filter fun e => d.entry e == 0).map .zero
    ++ if d.pace.most < d.pace.least then [.crossed d.pace.least d.pace.most] else []

/-! ### Reading -/

/-- Why a settings document is refused. -/
inductive SettingsError where
  /-- The text is no settings document. -/
  | unreadable (fault : Fault)
  /-- The document is unsound. -/
  | unsound (violations : List Violation)
  deriving DecidableEq, Repr

/-- The wording of a settings error, where it has one. -/
def SettingsError.message? : SettingsError → Option String
  | .unreadable fault => some s!"failed to parse config: {fault.message}"
  | .unsound _ => none

/-- Where settings come from. -/
inductive SettingsSource where
  /-- There is no such file. -/
  | missing
  /-- There is something that cannot be read as a file. -/
  | unreadable
  /-- A file. -/
  | file (bytes : List UInt8)
  deriving DecidableEq, Repr

namespace Settings

/-- The settings of the document in which every key is left out. -/
def default : Settings := Document.default.settings

instance : Inhabited Settings := ⟨default⟩

/-- The settings that a text holds. -/
def ofText (s : String) : Except SettingsError Settings := do
  let d ← (Document.ofText s).mapError .unreadable
  match d.violations with
  | [] => .ok d.settings
  | vs => .error (.unsound vs)

/-- The settings of a source; the default where it holds none. -/
def load : SettingsSource → Settings
  | .missing | .unreadable => default
  | .file bytes =>
    match Text.ofUtf8? bytes with
    | none => default
    | some s =>
      match ofText s with
      | .ok settings => settings
      | .error _ => default

/-- Where settings are looked for unless a variable says otherwise. -/
def defaultPath : String := "config/client.json"

/-- Where settings are looked for: what the variable says, unless it is empty. -/
def path (setting : Option String) : String :=
  match setting with
  | none | some "" => defaultPath
  | some p => p

end Settings

end QuizClient
