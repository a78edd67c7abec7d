import CallAtlas.Text.Quoted
import CallAtlas.Trace.Record

/-!
# What happened while a trace was read

`LoadStats` counts lines, records and calls, and keeps a `Notice` for each line refused and for each
entry point whose call type is not `entry`, in the order of the trace.
-/

namespace CallAtlas.Graph

open Trace (Malformed)

/-- The call type that entry points are expected to have. -/
def entryCallType : String := "entry"

/-- An entry point whose call type is not the expected one. -/
structure UnexpectedEntry where
  lineNo : Option Int
  method : MethodName
  callType : String
  deriving DecidableEq, Repr

/-- The warning in words, with the number of the line. -/
def UnexpectedEntry.message (w : UnexpectedEntry) : String :=
  atLine w.lineNo
    ("entry point " ++ w.method.qualified ++ " has call type " ++ Text.quoted w.callType)

/-- Something to report about a line. -/
inductive Notice where
  /-- The line was left out. -/
  | malformed (m : Malformed)
  /-- The line was taken, but looks odd. -/
  | unexpectedEntry (w : UnexpectedEntry)
  deriving DecidableEq, Repr

/-- The refusal, if the notice is one. -/
def Notice.malformed? : Notice → Option Malformed
  | .malformed m => some m
  | .unexpectedEntry _ => none

/-- The odd entry point, if the notice is one. -/
def Notice.unexpectedEntry? : Notice → Option UnexpectedEntry
  | .malformed _ => none
  | .unexpectedEntry w => some w

/-- The counts of one run over a trace, and its notices. -/
structure LoadStats where
  lines : Nat := 0
  records : Nat := 0
  malformed : Nat := 0
  entrypoints : Nat := 0
  edges : Nat := 0
  duplicateEdges : Nat := 0
  notices : Array Notice := #[]
  deriving DecidableEq, Repr, Inhabited

namespace LoadStats

variable (s : LoadStats)

/-- The lines refused, in order. -/
def refusals : List Malformed :=
  s.notices.toList.filterMap Notice.malformed?

/-- The odd entry points, in order. -/
def unexpectedEntries : List UnexpectedEntry :=
  s.notices.toList.filterMap Notice.unexpectedEntry?

/-- The refusals in words. -/
def errors : List String :=
  s.refusals.map (·.message)

/-- The warnings in words. -/
def warnings : List String :=
  s.unexpectedEntries.map (·.message)

/-- The counts with their names, in the order in which they are reported. -/
def counts : List (String × Nat) :=
  [("lines", s.lines), ("records", s.records), ("malformed", s.malformed),
   ("entrypoints", s.entrypoints), ("edges", s.edges), ("duplicate_edges", s.duplicateEdges),
   ("warnings", s.warnings.length)]

/-- The counts on one line. -/
def summary : String :=
  "LoadStats(" ++
    String.intercalate ", " (s.counts.map fun c => c.1 ++ "=" ++ toString c.2) ++ ")"

end LoadStats

end CallAtlas.Graph
