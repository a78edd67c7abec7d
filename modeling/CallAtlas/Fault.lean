import CallAtlas.Load

/-!
# What ends a run

A `Fault` is what keeps a run from its answer. Two of them are told to the user in a line: that no
trace file is named, and that the trace file cannot be read. The others end the program.

- `openTrace`: the trace that the settings name, or the fault, with the events to report.
-/

namespace CallAtlas

open File (FileError Files Path)
open CallAtlas.Graph (Loaded)
open Log (Event)

/-- What keeps a run from its answer. -/
inductive Fault where
  | level (e : Log.LevelError)
  | setting (e : SettingError)
  | load (e : LoadError)
  | file (e : FileError)
  deriving DecidableEq, Repr

/-- The fault in words. -/
def Fault.message : Fault → String
  | .level e => e.message
  | .setting e => e.message
  | .load e => e.message
  | .file e => e.message

/-- Whether the user is told of the fault in a line. -/
def Fault.isTold : Fault → Bool
  | .setting .noFile => true
  | .load (.unreadable ..) => true
  | _ => false

/-- The trace that the settings name. -/
def openTrace {m : Type → Type} [Monad m] [Files m] (env : Environment) (given : Option Path) :
    m (List Event × Except Fault Loaded) :=
  match traceFile env given with
  | .error e => pure ([], .error (.setting e))
  | .ok path => do
    let (events, loaded) ← loadFile path
    return (events, loaded.mapError .load)

end CallAtlas
