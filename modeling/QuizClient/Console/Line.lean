import QuizClient.Client.Action
import QuizClient.Text.Blank

/-!
# Input lines

A line of input is a frame from the server, or a command of the player when it
starts with an exclamation mark.  Blanks around a line do not count.

## Main definitions

* `Command`, `Line` — what a line says.
* `Line.ofText` — reads a line; a blank one says nothing.
* `Line.render` — the plain way to write a line.
* `LineError` — why a command is not understood.
-/

namespace QuizClient

/-! ### What a line says -/

/-- A command of the player. -/
inductive Command where
  /-- Send an action. -/
  | act (action : Action)
  /-- Start over on a fresh connection. -/
  | reset
  /-- Leave the game. -/
  | leave
  deriving DecidableEq, Repr

/-- A line that says something. -/
inductive Line where
  /-- A frame from the server. -/
  | frame (text : String)
  /-- A command of the player. -/
  | command (command : Command)
  deriving DecidableEq, Repr

/-- Why a command is not understood. -/
inductive LineError where
  /-- No command has this name. -/
  | unknownCommand (name : String)
  /-- The command lacks something. -/
  | missingArgument (command argument : String)
  /-- The command cannot use what it is given. -/
  | badArgument (command value : String)
  deriving DecidableEq, Repr

/-- The wording of a line error. -/
def LineError.message : LineError → String
  | .unknownCommand name => s!"unknown command `{name}`"
  | .missingArgument command argument => s!"`{command}` needs {argument}"
  | .badArgument command value => s!"`{command}` cannot use `{value}`"

/-! ### Reading -/

namespace Command

/-- An argument that must be there. -/
def required (command argument value : String) : Except LineError String :=
  if value = "" then .error (.missingArgument command argument) else .ok value

/-- An argument that must be there and be a number. -/
def number {α : Type} (read : String → Option α) (command argument value : String) :
    Except LineError α := do
  let text ← required command argument value
  match read text with
  | some n => .ok n
  | none => .error (.badArgument command text)

/-- An argument that says yes or no; none at all says yes. -/
def flag (command value : String) : Except LineError Bool :=
  if value = "" ∨ value = "yes" ∨ value = "true" then .ok true
  else if value = "no" ∨ value = "false" then .ok false
  else .error (.badArgument command value)

/-- The command with a name and the rest of its line. What a command has no use for
is passed over. -/
def ofParts (name rest : String) : Except LineError Command :=
  match name with
  | "reset" => .ok .reset
  | "leave" => .ok .leave
  | "buzz" => .ok (.act (.buzz false))
  | "pass" => .ok (.act (.buzz true))
  | "pause" => .ok (.act (.pause true))
  | "resume" => .ok (.act (.pause false))
  | "pick" => do
    let indices := Text.words rest
    let column ← number Text.natural? "pick" "a category index" (indices[0]?.getD "")
    let row ← number Text.natural? "pick" "a value index" (indices[1]?.getD "")
    .ok (.act (.pick column row))
  | "answer" => do
    let text ← required "answer" "the answer text" rest
    .ok (.act (.answer text))
  | "wager" => do
    let amount ← number Text.integer? "wager" "an amount" rest
    .ok (.act (.wager amount))
  | "confirm" => do
    let agree ← flag "confirm" rest
    .ok (.act (.confirm agree))
  | "dispute" => do
    let overturn ← flag "dispute" rest
    .ok (.act (.dispute overturn))
  | "protest" => do
    let player ← required "protest" "a player id" rest
    .ok (.act (.protest player))
  | other => .error (.unknownCommand other)

/-- The command that a text behind the exclamation mark gives. -/
def ofText (s : String) : Except LineError Command :=
  let (name, rest) := Text.splitFirst s
  ofParts name (Text.trim rest)

end Command

/-- What a line says; a blank line says nothing. -/
def Line.ofText (s : String) : Except LineError (Option Line) :=
  match Text.trimChars s.toList with
  | [] => .ok none
  | '!' :: cs => (fun c => some (.command c)) <$> Command.ofText (String.ofList cs)
  | cs => .ok (some (.frame (String.ofList cs)))

/-! ### Writing -/

/-- The word for yes or no. -/
def yesNo (b : Bool) : String := if b then "yes" else "no"

/-- The plain way to write a command. -/
def Command.render : Command → String
  | .reset => "!reset"
  | .leave => "!leave"
  | .act (.buzz false) => "!buzz"
  | .act (.buzz true) => "!pass"
  | .act (.pause true) => "!pause"
  | .act (.pause false) => "!resume"
  | .act (.pick column row) =>
    "!pick " ++ String.ofList (Text.decimal column.toNat) ++ " "
      ++ String.ofList (Text.decimal row.toNat)
  | .act (.answer text) => "!answer " ++ text
  | .act (.wager amount) => "!wager " ++ String.ofList (Text.decimalInt amount.toInt)
  | .act (.confirm agree) => "!confirm " ++ yesNo agree
  | .act (.dispute overturn) => "!dispute " ++ yesNo overturn
  | .act (.protest player) => "!protest " ++ player

/-- The plain way to write a line. -/
def Line.render : Line → String
  | .frame text => text
  | .command c => c.render

end QuizClient
