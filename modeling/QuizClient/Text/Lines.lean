/-!
# Lines of a byte stream

A line ends at a line feed; a carriage return right before it belongs to the
end and not to the line.  The bytes behind the last line feed are the start of
a line whose end has not arrived yet.

## Main definitions

* `cutLines` — the finished lines of some bytes, and the bytes left over.
* `lineOfBytes?` — the text of one line, `none` where its bytes are no UTF-8.
-/

namespace QuizClient.Text

/-- The byte that ends a line. -/
def lineFeed : UInt8 := 10

/-- The byte that may stand before a line feed. -/
def carriageReturn : UInt8 := 13

/-- The finished lines of some bytes, in order, and what follows the last line
feed.  `held` is what the current line holds so far, last byte first. -/
def cutLinesFrom (held : List UInt8) : List UInt8 → List (List UInt8) × List UInt8
  | [] => ([], held.reverse)
  | b :: bs =>
    if b = lineFeed then
      let (lines, rest) := cutLinesFrom [] bs
      (held.reverse :: lines, rest)
    else cutLinesFrom (b :: held) bs

/-- The finished lines of some bytes, in order, and what follows the last line
feed. -/
def cutLines (bytes : List UInt8) : List (List UInt8) × List UInt8 := cutLinesFrom [] bytes

/-- A finished line without its optional carriage return. -/
def dropReturn (line : List UInt8) : List UInt8 :=
  if line.getLast? = some carriageReturn then line.dropLast else line

/-- The text that some bytes write in UTF-8. -/
def ofUtf8? (bytes : List UInt8) : Option String := String.fromUTF8? ⟨bytes.toArray⟩

/-- The bytes of a text in UTF-8. -/
def toUtf8 (s : String) : List UInt8 := s.toUTF8.toList

/-- The text of a finished line, `none` where its bytes are no UTF-8. -/
def lineOfBytes? (line : List UInt8) : Option String := ofUtf8? (dropReturn line)

end QuizClient.Text
