/-!
# Lines

A line ends at a line feed, at a carriage return, or at the two together in this order; the last line
of a text needs no end. `lines` gives the lines without their ends.

It is a machine over the characters (`LineReader`).
-/

namespace CallAtlas.Text

/-- The machine between two characters: the lines read so far, last one first, the line begun, last
character first, and whether the character before was a carriage return. -/
structure LineReader where
  done : List String := []
  line : List Char := []
  afterReturn : Bool := false

/-- The machine, after the end of a line. -/
def LineReader.close (r : LineReader) (afterReturn : Bool) : LineReader :=
  ⟨String.ofList r.line.reverse :: r.done, [], afterReturn⟩

/-- The machine after a character. -/
def LineReader.step (r : LineReader) (c : Char) : LineReader :=
  if c = '\r' then r.close true
  else if c = '\n' then if r.afterReturn then { r with afterReturn := false } else r.close false
  else ⟨r.done, c :: r.line, false⟩

/-- The lines read, when no character is left. -/
def LineReader.finish (r : LineReader) : List String :=
  if r.line = [] then r.done.reverse else (r.close false).done.reverse

/-- The lines of a text, without their ends. -/
def lines (text : List Char) : List String :=
  (text.foldl LineReader.step {}).finish

example : lines "a\r\n\rb\n\nc".toList = ["a", "", "b", "", "c"] := by decide

end CallAtlas.Text
