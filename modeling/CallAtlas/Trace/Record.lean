import CallAtlas.Text.Numeral

/-!
# Trace records

A trace is a list of calls, each on a line of its own below the call that made it. One line read is a
`Record`; a line that cannot be read, or a record that has no place in the tree of open calls, is a
`Malformed` one, with its `Cause`.
-/

namespace CallAtlas

/-- A method, named by its class and its signature. -/
structure MethodName where
  className : String
  signature : String
  deriving DecidableEq, Repr, Inhabited

/-- The class, a point, and the signature. -/
def MethodName.qualified (m : MethodName) : String :=
  m.className ++ "." ++ m.signature

/-- The text, after the number of its line if there is one. -/
def atLine (lineNo : Option Int) (text : String) : String :=
  match lineNo with
  | none => text
  | some n => "line " ++ toString n ++ ": " ++ text

namespace Trace

/-- One call of a trace. Entry points have depth 0, or -1 in a trace that starts at column zero. -/
structure Record where
  depth : Int
  callType : String
  method : MethodName
  lineNo : Option Int := none
  deriving DecidableEq, Repr, Inhabited

/-- Why a line or a record is refused. -/
inductive Cause where
  /-- No point after the margin. -/
  | noPoint
  /-- No blank before the class name, so no call type. -/
  | noCallType
  /-- No opening bracket after the call type. -/
  | noParameters
  /-- No point between the call type and the opening bracket. -/
  | noMethodPoint
  /-- No colon after the opening bracket. -/
  | noColon
  /-- The record stands above the level at which the trace began. -/
  | aboveTop (depth : Int)
  /-- The record stands more than one level below the innermost open call. -/
  | skipsLevel (depth : Int) (openFrames : Nat)
  deriving DecidableEq, Repr

/-- The cause in words. -/
def Cause.message : Cause → String
  | .noPoint => "no '.' after indentation"
  | .noCallType => "no call type before class name"
  | .noParameters => "no parameter list"
  | .noMethodPoint => "no '.' between class and method"
  | .noColon => "no ':' after method signature"
  | .aboveTop depth => "depth " ++ toString depth ++ " is above the top level"
  | .skipsLevel depth openFrames =>
    "depth " ++ toString depth ++ " skips a level (open frames: " ++ toString openFrames ++ ")"

/-- A refusal: its cause, the number of the line if it is known, and the text refused. -/
structure Malformed where
  cause : Cause
  lineNo : Option Int
  line : String
  deriving DecidableEq, Repr

/-- The refusal in words, with the number of the line. -/
def Malformed.message (m : Malformed) : String :=
  atLine m.lineNo m.cause.message

/-- Whether the number in the cause, if there is one, can be written. -/
def Cause.isWritable : Cause → Bool
  | .aboveTop depth => Text.isWritable depth
  | .skipsLevel depth _ => Text.isWritable depth
  | _ => true

/-- Whether the numbers in the refusal can be written. -/
def Malformed.isWritable (m : Malformed) : Bool :=
  m.lineNo.all Text.isWritable && m.cause.isWritable

/-- The refusal in words, if its numbers can be written. -/
def Malformed.written (m : Malformed) : Except Text.NumeralError String :=
  if m.isWritable then .ok m.message else .error .tooLong

end Trace

end CallAtlas
