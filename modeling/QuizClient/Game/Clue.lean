import QuizClient.Game.Player
import QuizClient.Text.Blank

/-!
# Clues, answers and board categories

## Main definitions

* `Answer` — what a player answered and how it was ruled.
* `Clue` — a clue, as much of it as the server shows.
* `Clue.same` — whether two descriptions are of one clue.
* `Category` — a column of the board.
-/

namespace QuizClient

open Json

/-! ### Answers -/

/-- An answer and its ruling. -/
structure Answer where
  /-- Who answered. -/
  player : Player
  /-- What they said. -/
  text : String
  /-- Whether it was ruled right. -/
  correct : Bool
  /-- Whether somebody challenged the ruling. -/
  disputed : Bool
  /-- Whether the challenge reversed it. -/
  overturned : Bool
  deriving DecidableEq

namespace Answer

/-- The answer of which nothing is said. -/
def blank : Answer where
  player := .blank
  text := ""
  correct := false
  disputed := false
  overturned := false

/-- The fields of an answer on the wire. -/
def shape : Shape Answer where
  name := "Answer"
  blank := blank
  members := [
    (Player.codec.orBlank .blank).member "player" (·.player) fun a r => { r with player := a },
    Codec.string.member "answer" (·.text) fun a r => { r with text := a },
    Codec.bool.member "correct" (·.correct) fun a r => { r with correct := a },
    Codec.bool.member "hasDisputed" (·.disputed) fun a r => { r with disputed := a },
    Codec.bool.member "overturned" (·.overturned) fun a r => { r with overturned := a }]

/-- Answers on the wire. -/
def codec : Codec Answer := shape.codec

end Answer

/-! ### Clues -/

/-- A clue. -/
structure Clue where
  /-- Title of its category. -/
  category : String
  /-- The host's comments. -/
  comments : String
  /-- What is read out. -/
  text : String
  /-- The expected answer, once it is shown. -/
  answer : String
  /-- Its value. -/
  value : Int64
  /-- Whether it is still on the board. -/
  available : Bool
  /-- The answer being ruled on. -/
  current : Option Answer
  /-- The answers so far. -/
  answers : List Answer
  /-- The answer whose ruling is challenged. -/
  disputed : Option Answer
  deriving DecidableEq

namespace Clue

/-- The clue of which nothing is said. -/
def blank : Clue where
  category := ""
  comments := ""
  text := ""
  answer := ""
  value := 0
  available := false
  current := none
  answers := []
  disputed := none

/-- The fields of a clue on the wire. -/
def shape : Shape Clue where
  name := "Question"
  blank := blank
  members := [
    Codec.string.member "category" (·.category) fun a c => { c with category := a },
    Codec.string.member "comments" (·.comments) fun a c => { c with comments := a },
    Codec.string.member "question" (·.text) fun a c => { c with text := a },
    Codec.string.member "answer" (·.answer) fun a c => { c with answer := a },
    Codec.signed.member "value" (·.value) fun a c => { c with value := a },
    Codec.bool.member "canChoose" (·.available) fun a c => { c with available := a },
    Answer.codec.optional.member "curAns" (·.current) fun a c => { c with current := a },
    (Answer.codec.list.orBlank []).member "answers" (·.answers)
      fun a c => { c with answers := a },
    Answer.codec.optional.member "curDisputed" (·.disputed) fun a c => { c with disputed := a }]

/-- Clues on the wire. -/
def codec : Codec Clue := shape.codec

/-- Whether two descriptions are of one clue: category, text and value agree,
whatever has been shown of it since. -/
def same (a b : Clue) : Bool :=
  a.category == b.category && a.text == b.text && a.value == b.value

/-- How many words are read out. -/
def wordCount (c : Clue) : Nat := Text.wordCount c.text

end Clue

/-! ### Categories -/

/-- A column of the board. -/
structure Category where
  /-- Its heading. -/
  title : String
  /-- Its clues from the lowest value to the highest. -/
  clues : List Clue
  deriving DecidableEq

namespace Category

/-- The category of which nothing is said. -/
def blank : Category := ⟨"", []⟩

/-- The fields of a category on the wire. -/
def shape : Shape Category where
  name := "Category"
  blank := blank
  members := [
    Codec.string.member "title" (·.title) fun a c => { c with title := a },
    (Clue.codec.list.orBlank []).member "questions" (·.clues) fun a c => { c with clues := a }]

/-- Categories on the wire. -/
def codec : Codec Category := shape.codec

end Category

end QuizClient
