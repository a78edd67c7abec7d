import CallAtlas.Graph.Stats
import CallAtlas.Json.Printer
import CallAtlas.Settings

/-!
# The log

The program reports what it does as events. An event has a name, a level, the part of the program that
reports it, and fields.

- `Setup.choose`: the level and form of the log, from what is given and the environment; a level that
  is none of `levelNames` is a `LevelError`;
- `Setup.admit`: the events that are shown;
- `Event.encode`, `Event.line`: an event as JSON, and as a line.
-/

namespace CallAtlas.Log

open CallAtlas.Graph

/-- How much an event matters. -/
inductive Level where
  | debug
  | info
  | warning
  deriving DecidableEq, Repr

/-- The level's name. -/
def Level.name : Level → String
  | .debug => "debug"
  | .info => "info"
  | .warning => "warning"

/-- The level on the scale of the thresholds. -/
def Level.value : Level → Nat
  | .debug => 10
  | .info => 20
  | .warning => 30

/-- The counts that are reported when a trace has been loaded. -/
structure LoadedCounts where
  classes : Nat
  methods : Nat
  edges : Nat
  entrypoints : Nat
  malformed : Nat
  deriving DecidableEq, Repr

/-- Something that the program does. -/
inductive Event where
  /-- The server is about to wait for its callers, by means of that mechanism. -/
  | waiting (mechanism : String)
  | loading (path : String)
  | notice (n : Notice)
  | loaded (path : String) (counts : LoadedCounts)
  | serving (classes methods : Nat)
  | exported (directory : String) (pages : Nat)
  deriving DecidableEq, Repr

namespace Event

/-- The event's name. -/
def name : Event → String
  | waiting mechanism => "Using selector: " ++ mechanism
  | loading _ => "trace.loading"
  | notice (.malformed _) => "trace.malformed_record"
  | notice (.unexpectedEntry _) => "trace.unexpected_entry_type"
  | loaded .. => "trace.loaded"
  | serving .. => "mcp.serving"
  | exported .. => "export.done"

/-- How much the event matters. -/
def level : Event → Level
  | waiting _ => .debug
  | notice _ => .warning
  | _ => .info

/-- The part of the program that reports the event. -/
def logger : Event → String
  | waiting _ => "asyncio"
  | loading _ => "calltree.loader"
  | notice _ => "calltree.builder"
  | loaded .. => "calltree.loader"
  | serving .. => "calltree.mcp"
  | exported .. => "calltree.export"

/-- The event's fields. -/
def fields : Event → List (String × Json)
  | waiting _ => []
  | loading path => [("path", .str path)]
  | notice (.malformed m) =>
    [("line_no", .int? m.lineNo), ("reason", .str m.message), ("line", .str m.line)]
  | notice (.unexpectedEntry w) =>
    [("line_no", .int? w.lineNo), ("method", .str w.method.qualified), ("call_type", .str w.callType)]
  | loaded path counts =>
    [("path", .str path), ("classes", .nat counts.classes), ("methods", .nat counts.methods),
     ("edges", .nat counts.edges), ("entrypoints", .nat counts.entrypoints),
     ("malformed", .nat counts.malformed)]
  | serving classes methods => [("classes", .nat classes), ("methods", .nat methods)]
  | exported directory pages => [("output_dir", .str directory), ("pages", .nat pages)]

/-- The event as an object: its fields, then its name, level and reporter. -/
def encode (e : Event) : Json :=
  .obj (e.fields ++
    [("event", .str e.name), ("level", .str e.level.name), ("logger", .str e.logger)])

/-- The event as a line, its fields left out. -/
def line (e : Event) : String :=
  "[" ++ e.level.name ++ " ] " ++ e.name

/-- The event as a line, with its reporter and its fields. -/
def fullLine (e : Event) : String :=
  String.intercalate " " <|
    [e.line, "[" ++ e.logger ++ "]"] ++ e.fields.map fun f => f.1 ++ "=" ++ f.2.compact

end Event

/-- The names of the thresholds, with their values. -/
def levelNames : List (String × Nat) :=
  [("CRITICAL", 50), ("FATAL", 50), ("ERROR", 40), ("WARN", 30), ("WARNING", 30), ("INFO", 20),
   ("DEBUG", 10), ("NOTSET", 0)]

/-- The level given is not one of `levelNames`. -/
inductive LevelError where
  | unknownLevel
  deriving DecidableEq, Repr

/-- The error in words. -/
def LevelError.message : LevelError → String
  | .unknownLevel => "Unable to configure logger 'calltree'"

/-- A character in upper case, as far as the names of levels need it: besides the ASCII letters, the
dotless i and the long s have ASCII capitals. -/
def upperChar (c : Char) : Char :=
  if c = '\u0131' then 'I' else if c = '\u017f' then 'S' else c.toUpper

/-- The value of the threshold of that name, in letters of either case. -/
def threshold? (name : String) : Option Nat :=
  let upper := String.ofList (name.toList.map upperChar)
  (levelNames.find? fun l => l.1 == upper).map (·.2)

/-- Which events are shown, and how. -/
structure Setup where
  threshold : Nat
  asJson : Bool
  deriving DecidableEq, Repr

/-- The text given, if it is not empty. -/
def nonempty? (given : Option String) : Option String :=
  given.filter (· ≠ "")

/-- The setup: what is given and not empty wins over the environment; the level is `INFO` and the form
is lines where neither says anything. -/
def Setup.choose (env : Environment) (level format : Option String) : Except LevelError Setup :=
  let name := (nonempty? level).getD (env.logLevel.getD "INFO")
  let form := (nonempty? format).getD (env.logFormat.getD "console")
  match threshold? name with
  | none => .error .unknownLevel
  | some threshold => .ok ⟨threshold, form.map Char.toLower = "json"⟩

/-- The events that are shown. -/
def Setup.admit (setup : Setup) (events : List Event) : List Event :=
  events.filter fun e => setup.threshold ≤ e.level.value

end CallAtlas.Log
