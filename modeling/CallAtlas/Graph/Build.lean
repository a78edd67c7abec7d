import CallAtlas.Graph.Basic
import CallAtlas.Graph.Stats
import CallAtlas.Text.Blank
import CallAtlas.Trace.Line

/-!
# Building a call graph from a trace

A trace lists calls depth first, so the calls still open form a path: the frames. A record of depth `d`
closes all frames but the `d` outermost ones; the innermost of those made the call, and with `d = 0`
the record is an entry point. The depth of the first record fixes the level at which the trace begins
(`origin`): -1 if that record stands at column zero, else 0. A record above that level, or one more
than a level below the innermost frame, is refused.

- `Builder.addRecord`, `Builder.addLines`, `Builder.build`: the steps. A refused record leaves the
  graph alone; what a step did before it was refused stays, so each step gives the builder after it
  beside its outcome. Lines end early where a refusal names a number too long to be written, as it may
  if a record far from the top level came before them.
- `load`: the graph and the counts of a whole trace (`Loaded`). The levels of a trace have no more
  digits than the length of its lines has, so no refusal ends it early.
-/

namespace CallAtlas.Graph

open Trace (Malformed Record parseLine)

/-- The state between two steps: the graph so far, the methods of the open calls from the outermost
inwards, the level at which the trace began, and the counts. -/
structure Builder where
  graph : CallGraph := {}
  frames : List MethodId := []
  origin : Option Int := none
  stats : LoadStats := {}
  deriving DecidableEq, Repr, Inhabited

/-- Why a record is not added. -/
inductive AddError where
  /-- It has no place below the open calls. -/
  | malformed (m : Malformed)
  /-- The graph refuses it. -/
  | graph (e : GraphError)
  deriving DecidableEq, Repr

/-- Why lines end early. -/
inductive LineError where
  /-- The graph refuses a record. -/
  | graph (e : GraphError)
  /-- The refusal of a line cannot be written. -/
  | numeral (e : Text.NumeralError)
  deriving DecidableEq, Repr

/-- Adds one if the count is to grow. -/
def countIf (b : Bool) (n : Nat) : Nat :=
  if b then n + 1 else n

namespace Builder

/-- How many calls are open. -/
def depth (b : Builder) : Nat :=
  b.frames.length

/-- Keeps a notice. -/
def note (b : Builder) (n : Notice) : Builder :=
  { b with stats := { b.stats with notices := b.stats.notices.push n } }

/-- Counts and keeps a line refused. -/
def refuse (b : Builder) (m : Malformed) : Builder :=
  let b := b.note (.malformed m)
  { b with stats := { b.stats with malformed := b.stats.malformed + 1 } }

/-- Warns of an entry point whose call type is not the expected one. -/
def checkEntry (b : Builder) (r : Record) : Builder :=
  if r.callType = entryCallType then b
  else b.note (.unexpectedEntry ⟨r.lineNo, r.method, r.callType⟩)

/-- Makes the method an entry point. -/
def enter (b : Builder) (id : MethodId) : Builder × Except AddError Unit :=
  let ⟨graph, frames, origin, stats⟩ := b
  match graph.addEntrypoint id with
  | (graph, .error e) => (⟨graph, frames, origin, stats⟩, .error (.graph e))
  | (graph, .ok isNew) =>
    let stats := { stats with entrypoints := countIf isNew stats.entrypoints }
    (⟨graph, frames, origin, stats⟩, .ok ())

/-- Adds the call. -/
def connect (b : Builder) (edge : CallEdge) : Builder × Except AddError Unit :=
  let ⟨graph, frames, origin, stats⟩ := b
  match graph.addEdge edge with
  | (graph, .error e) => (⟨graph, frames, origin, stats⟩, .error (.graph e))
  | (graph, .ok isNew) =>
    let stats := { stats with
      edges := countIf isNew stats.edges
      duplicateEdges := countIf (!isNew) stats.duplicateEdges }
    (⟨graph, frames, origin, stats⟩, .ok ())

/-- Adds a record below the `level` outermost frames; all others are closed. -/
def place (b : Builder) (r : Record) (level : Nat) : Builder × Except AddError Unit :=
  let ⟨graph, frames, origin, stats⟩ := b
  let frames := frames.take level
  match graph.addNamed r.method with
  | (graph, .error e) => (⟨graph, frames, origin, stats⟩, .error (.graph e))
  | (graph, .ok id) =>
    let stats := { stats with records := stats.records + 1 }
    let b : Builder := ⟨graph, frames ++ [id], origin, stats⟩
    match frames.getLast? with
    | none => (b.checkEntry r).enter id
    | some caller => b.connect ⟨r.callType, caller, id⟩

/-- Adds a record. -/
def addRecord (b : Builder) (r : Record) : Builder × Except AddError Unit :=
  let origin := b.origin.getD (if r.depth < 0 then r.depth else 0)
  let b := { b with origin := some origin }
  let level := r.depth - origin
  if level < 0 then
    (b, .error (.malformed ⟨.aboveTop r.depth, r.lineNo, r.method.qualified⟩))
  else if (b.depth : Int) < level then
    (b, .error (.malformed ⟨.skipsLevel level b.depth, r.lineNo, r.method.qualified⟩))
  else b.place r level.toNat

/-- Adds the record of a line, or counts the line as refused if `isTold` holds of the refusal; fails if
it does not, or if the graph does. -/
def addLine (isTold : Malformed → Bool) (b : Builder) (lineNo : Nat) (line : String) :
    Builder × Except LineError Unit :=
  match parseLine line (some lineNo) with
  | .error m => (b.refuse m, .ok ())
  | .ok r =>
    match b.addRecord r with
    | (b, .ok ()) => (b, .ok ())
    | (b, .error (.malformed m)) =>
      if isTold m then (b.refuse m, .ok ()) else (b, .error (.numeral .tooLong))
    | (b, .error (.graph e)) => (b, .error (.graph e))

/-- Adds lines whose numbers start at `lineNo`, up to the first that fails. Line 1 is left out if it is a
header; blank lines are left out too. -/
def addLinesFrom (isTold : Malformed → Bool) (b : Builder) (hasHeader : Bool) (lineNo : Nat) :
    List String → Builder × Except LineError Unit
  | [] => (b, .ok ())
  | line :: rest =>
    let b := { b with stats := { b.stats with lines := b.stats.lines + 1 } }
    if (hasHeader && lineNo == 1) || Text.allBlank line then
      addLinesFrom isTold b hasHeader (lineNo + 1) rest
    else
      match addLine isTold b lineNo line with
      | (b, .ok ()) => addLinesFrom isTold b hasHeader (lineNo + 1) rest
      | (b, .error e) => (b, .error e)

/-- Adds the lines of a trace. -/
def addLines (b : Builder) (lines : List String) (hasHeader : Bool) :
    Builder × Except LineError Unit :=
  addLinesFrom Malformed.isWritable b hasHeader 1 lines

/-- Closes all frames and freezes the graph. -/
def build (b : Builder) : Builder :=
  { b with frames := [], graph := b.graph.freeze }

end Builder

/-- The frozen graph of a trace, and the counts of the run that built it. -/
structure Loaded where
  graph : CallGraph
  stats : LoadStats
  deriving DecidableEq, Repr, Inhabited

/-- The graph and the counts of a trace whose first line is a header. -/
def load (lines : List String) : Loaded :=
  let b := (Builder.addLinesFrom (fun _ => true) {} true 1 lines).1.build
  ⟨b.graph, b.stats⟩

end CallAtlas.Graph
