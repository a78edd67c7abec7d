import CallAtlas.Fault
import CallAtlas.Tools.Listing

/-!
# The start of the tool server

`start` sets up the log, loads the trace that the environment names, and reports that the tools are
ready. What the tools then answer is in `Dispatch`.
-/

namespace CallAtlas.Tools

open File (Files)
open CallAtlas.Graph (Loaded)
open Log (Event Setup)

/-- How the start went: the events shown, and the trace or the fault. -/
structure Start where
  setup : Option Setup
  events : List Event
  result : Except Fault Loaded

/-- The event that reports how the server waits for its callers. -/
def waitingEvent : Event :=
  .waiting "EpollSelector"

/-- The event that reports that the tools are ready. -/
def servingEvent (l : Loaded) : Event :=
  .serving l.graph.numClasses l.graph.numMethods

/-- Starts the server. -/
def start {m : Type → Type} [Monad m] [Files m] (env : Environment) : m Start :=
  match Setup.choose env none none with
  | .error e => pure ⟨none, [], .error (.level e)⟩
  | .ok setup => do
    let (events, result) ← openTrace env none
    let ready :=
      match result with
      | .ok l => [servingEvent l]
      | .error _ => []
    return ⟨some setup, setup.admit (waitingEvent :: events ++ ready), result⟩

/-- The exit code of a start that failed with a fault that the user is told of. -/
def startFailedCode : Nat := 2

/-- The line that tells the user of a fault. -/
def startFailedLine (f : Fault) : String :=
  "calltree-mcp: " ++ f.message

end CallAtlas.Tools
