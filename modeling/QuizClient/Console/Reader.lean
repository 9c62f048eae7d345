import QuizClient.Console.Host
import QuizClient.Text.Lines

/-!
# The reader of a session

Bytes of input arrive in portions of any size.  The reader cuts them into lines
and the lines into what reaches the host.

## Main definitions

* `inputsOfLines` — what finished lines give to a host.
* `Reader` — the line that has begun, and whether there may be more.
* `Reader.feed`, `Reader.finish` — bytes arrive, the input ends.
-/

namespace QuizClient

/-- What finished lines give to a host, and whether the input goes on behind them.
Blank lines and commands that are not understood give nothing; a line that is no
text ends the input. -/
def inputsOfLines : List (List UInt8) → List Input × Bool
  | [] => ([], true)
  | line :: lines =>
    match Text.lineOfBytes? line with
    | none => ([.framesClosed], false)
    | some s =>
      let (inputs, going) := inputsOfLines lines
      match Line.ofText s with
      | .ok (some (.frame text)) => (.frame text :: inputs, going)
      | .ok (some (.command c)) => (.command c :: inputs, going)
      | _ => (inputs, going)

/-- A reader of input. -/
structure Reader where
  /-- What the unfinished line holds so far. -/
  held : List UInt8
  /-- Whether there may be more input. -/
  going : Bool
  deriving DecidableEq

namespace Reader

/-- A reader before any byte. -/
def fresh : Reader := ⟨[], true⟩

/-- Bytes arrive. -/
def feed (r : Reader) (bytes : List UInt8) : Reader × List Input :=
  if r.going then
    let (lines, held) := Text.cutLines (r.held ++ bytes)
    let (inputs, going) := inputsOfLines lines
    (⟨held, going⟩, inputs)
  else (r, [])

/-- The input ends; what the unfinished line holds is the last line. -/
def finish (r : Reader) : Reader × List Input :=
  if r.going then
    let (inputs, going) := inputsOfLines (if r.held = [] then [] else [r.held])
    (⟨[], false⟩, if going then inputs ++ [Input.framesClosed] else inputs)
  else (r, [])

end Reader

end QuizClient
