import QuizClient.Text.Lines

/-!
# The writer of a session

Frames are written as lines, each with two writes: the frame and the end of the
line.  Once a write fails nothing is written any more.

## Main definitions

* `Budget` — how much can still be written.
* `Writer` — a budget, and whether no write has failed.
* `Writer.put`, `Writer.line`, `Writer.lines` — write bytes, a frame, frames; each
  gives the bytes written.
-/

namespace QuizClient

/-- How much can still be written. -/
inductive Budget where
  /-- Everything. -/
  | unlimited
  /-- Some whole writes; the next one writes nothing. -/
  | writes (left : Nat)
  /-- Some bytes; the write that holds more of them breaks off. -/
  | bytes (left : Nat)
  deriving DecidableEq, Repr

/-- A writer of frames. -/
structure Writer where
  /-- How much it can still write. -/
  budget : Budget
  /-- Whether no write has failed. -/
  working : Bool
  deriving DecidableEq, Repr

namespace Writer

/-- A writer before the first write. -/
def fresh (budget : Budget) : Writer := ⟨budget, true⟩

/-- One write. -/
def put (w : Writer) (bytes : List UInt8) : Writer × List UInt8 :=
  if w.working then
    match w.budget with
    | .unlimited => (w, bytes)
    | .writes 0 => (⟨.writes 0, false⟩, [])
    | .writes (n + 1) => (⟨.writes n, true⟩, bytes)
    | .bytes n =>
      if bytes.length ≤ n then (⟨.bytes (n - bytes.length), true⟩, bytes)
      else (⟨.bytes 0, false⟩, bytes.take n)
  else (w, [])

/-- Writes a frame and the end of its line. -/
def line (w : Writer) (frame : String) : Writer × List UInt8 :=
  let (w, text) := w.put (Text.toUtf8 frame)
  let (w, ending) := w.put [Text.lineFeed]
  (w, text ++ ending)

/-- Writes frames in order. -/
def lines (w : Writer) : List String → Writer × List UInt8
  | [] => (w, [])
  | f :: fs =>
    let (w, text) := w.line f
    let (w, rest) := w.lines fs
    (w, text ++ rest)

@[simp] theorem lines_nil (w : Writer) : w.lines [] = (w, []) := rfl

@[simp] theorem lines_cons (w : Writer) (f : String) (fs : List String) :
    w.lines (f :: fs)
      = (((w.line f).1.lines fs).1, (w.line f).2 ++ ((w.line f).1.lines fs).2) := rfl

end Writer

end QuizClient
