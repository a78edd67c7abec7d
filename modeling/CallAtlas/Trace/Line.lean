import CallAtlas.Text.Cut
import CallAtlas.Trace.Record

/-!
# Trace lines

A trace line is

    <margin><call type> <class>.<method>(<parameters>)<result>:<rest>

and `parseLine` reads it, at the first point, the last blank before that point, the first opening
bracket after that blank, the last point before that bracket, and the first colon after it. Each four
columns of margin are one level; the first level has depth 0.

- `indent`: the width of the margin, or 0 for a line that is margin only.
-/

namespace CallAtlas.Trace

open Text (cutFirst cutLast dropTrailing)

/-- The columns of one level. -/
def levelWidth : Nat := 4

/-- The characters of a margin: blanks, and all that is not ASCII, such as the lines that join calls in
a drawing of the tree. -/
def isMargin (c : Char) : Bool :=
  c == ' ' || 0x80 ≤ c.toNat

/-- The width of the margin; a line that is nothing but margin has none. -/
def indent (line : List Char) : Nat :=
  if line.all isMargin then 0 else (line.takeWhile isMargin).length

/-- The depth of a line whose margin has this width. -/
def depthOf (width : Nat) : Int :=
  ((width / levelWidth : Nat) : Int) - 1

/-- A level more of margin is a level more of depth. -/
theorem depthOf_add_levelWidth (columns : Nat) :
    depthOf (columns + levelWidth) = depthOf columns + 1 := by
  have : (columns + 4) / 4 = columns / 4 + 1 := by omega
  rw [depthOf, depthOf, levelWidth, this]
  omega

/-- The characters that end a line. -/
def isLineEnd (c : Char) : Bool :=
  c == '\r' || c == '\n'

/-- The parts of a line. -/
structure Fields where
  margin : List Char
  callType : List Char
  className : List Char
  signature : List Char
  rest : List Char
  deriving DecidableEq, Repr

/-- The parts of a line that has no line end, or why it is refused. -/
def Fields.ofLine (line : List Char) : Except Cause Fields :=
  match cutFirst '.' (line.dropWhile isMargin) with
  | none => .error .noPoint
  | some (beforePoint, afterPoint) =>
    match cutLast ' ' beforePoint with
    | none => .error .noCallType
    | some (callType, classStart) =>
      match cutFirst '(' (classStart ++ '.' :: afterPoint) with
      | none => .error .noParameters
      | some (path, parameters) =>
        match cutLast '.' path with
        | none => .error .noMethodPoint
        | some (className, method) =>
          match cutFirst ':' parameters with
          | none => .error .noColon
          | some (signatureEnd, rest) =>
            .ok ⟨line.takeWhile isMargin, callType, className, method ++ '(' :: signatureEnd, rest⟩

/-- The record of a line with these parts. -/
def Fields.record (f : Fields) (lineNo : Option Int) : Record where
  depth := depthOf f.margin.length
  callType := String.ofList f.callType
  method := ⟨String.ofList f.className, String.ofList f.signature⟩
  lineNo := lineNo

/-- The record of a line, or its refusal. Carriage returns and line feeds at the end of the line do
not count. -/
def parseLine (line : String) (lineNo : Option Int) : Except Malformed Record :=
  let text := dropTrailing isLineEnd line.toList
  match Fields.ofLine text with
  | .ok fields => .ok (fields.record lineNo)
  | .error cause => .error ⟨cause, lineNo, String.ofList text⟩

end CallAtlas.Trace
