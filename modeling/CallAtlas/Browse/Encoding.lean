import CallAtlas.Graph.Query
import CallAtlas.Graph.Stats
import CallAtlas.Json.Basic

/-!
# What a call graph is asked for, as JSON

The JSON form of names, calls, classes, methods and counts. What a command and a tool make of them is their own:
see `Cli.Answer` and `Tools.Answer`.
-/

namespace CallAtlas.Browse

open CallAtlas.Graph

/-- A method's class and signature. -/
def encodeName (m : MethodName) : Json :=
  .obj [("class_name", .str m.className), ("signature", .str m.signature)]

/-- A call, as seen from one end. -/
def encodeRef (r : CallRef) : Json :=
  .obj [("call_type", .str r.callType), ("class_name", .str r.method.className),
    ("signature", .str r.method.signature)]

/-- A method of a class with its counts. -/
def encodeSummary (s : MethodSummary) : Json :=
  .obj [("signature", .str s.signature), ("forward_count", .nat s.forwardCount),
    ("reverse_count", .nat s.reverseCount)]

/-- A class with its methods. -/
def encodeClass (info : ClassInfo) : Json :=
  .obj [("name", .str info.name), ("methods", .arr (info.methods.map encodeSummary))]

/-- A method with its calls. -/
def encodeMethod (info : MethodInfo) : Json :=
  .obj [("class_name", .str info.method.className), ("signature", .str info.method.signature),
    ("forward", .arr (info.forward.map encodeRef)), ("reverse", .arr (info.reverse.map encodeRef))]

/-- The counts of a run, as members of an object. -/
def encodeCounts (s : LoadStats) : List (String × Json) :=
  s.counts.map fun c => (c.1, .nat c.2)

end CallAtlas.Browse
