import CallAtlas.Cli.Command
import CallAtlas.Cli.Report
import CallAtlas.Console.Line
import CallAtlas.Fault
import CallAtlas.Json.Printer
import CallAtlas.Site.Export

/-!
# Running a command

`run` reads a command line, loads the trace, and answers, in any monad with a file system; `runWith` does so with
any reader of command lines.

- `Outcome`: what a run shows, its exit code, and the fault if one ended it;
- `answer`: what a command shows of a loaded trace, and whether what it asked for was found.
-/

namespace CallAtlas.Cli

open Browse (encodeClass encodeMethod)
open CallAtlas.Graph
open Console (escape)
open File (FileError Files Path)
open Log (Event Setup)

/-- What a run leaves. -/
structure Outcome where
  exitCode : Nat
  stdout : String := ""
  fault : Option Fault := none
  usage : Option UsageError := none
  setup : Option Setup := none
  events : List Event := []

/-- The exit code of a run that did not find what was asked for, or that a fault ended. -/
def failedCode : Nat := 1

/-- The exit code of a run with a wrong command line, or without a trace. -/
def refusedCode : Nat := 2

/-- The lines, each with its end. -/
def unlines (lines : List String) : String :=
  String.join (lines.map (· ++ "\n"))

/-- What a console shows of lines in markup. -/
def screen (lines : List String) : String :=
  unlines (lines.map Console.shown)

/-- The line in markup that tells the user what went wrong. -/
def failureLine (message : String) : String :=
  "[red]" ++ escape message ++ "[/red]"

/-- What a command shows: what it found as JSON or as lines, or what was not found. -/
def shown {α : Type} (asJson : Bool) (encode : α → Json) (report : α → List String) :
    Except NotFound α → Nat × String
  | .ok a => (0, if asJson then unlines [(encode a).compact] else screen (report a))
  | .error e => (failedCode, if asJson then unlines [e.encode.compact] else screen [failureLine e.message])

/-- The exit code and the text of a command that only reads. -/
def answer (l : Loaded) : Command → Nat × String
  | .classes asJson => shown asJson encodeClassNames classLines (.ok l.graph)
  | .classMethods name asJson => shown asJson encodeClass classInfoLines (findClass l.graph name)
  | .entrypoints asJson => shown asJson encodeEntrypoints entrypointLines (.ok l.graph)
  | .method name asJson => shown asJson encodeMethod methodInfoLines (findMethod l.graph name)
  | .trace name maxDepth asJson =>
    shown asJson encodeTrace traceLines (findTrace l.graph name maxDepth)
  | .stats asJson =>
    shown asJson (fun l => encodeStats l.graph l.stats) (fun l => statsLines l.graph l.stats)
      (.ok l)
  | .exportSite _ => (0, "")

section

variable {m : Type → Type} [Monad m] [Files m]

/-- Writes pages below a directory, up to the first that cannot be written. -/
def writePages (directory : Path) : List Site.Page → m (Except FileError Unit)
  | [] => pure (.ok ())
  | page :: rest => do
    match ← Files.write (directory.append page.path) (Site.render page.content) with
    | .ok () => writePages directory rest
    | .error e => return .error e

/-- Writes the site of a graph below a directory; the number of its pages. -/
def writeSite (g : CallGraph) (directory : Path) : m (Except FileError Nat) := do
  let pages := Site.pages g
  return (← writePages directory pages).map fun _ => pages.length

/-- The line in markup that tells the user what has been written. -/
def exportedLine (directory : Path) (pages : Nat) : String :=
  "[green]Done![/green] " ++ toString pages ++ " pages written to " ++ escape directory.toString

/-- A run that a fault ended. -/
def Outcome.ofFault (f : Fault) : Outcome :=
  if f.isTold then { exitCode := refusedCode, stdout := screen [failureLine f.message] }
  else { exitCode := failedCode, fault := some f }

/-- A run with a wrong command line. -/
def Outcome.ofUsage (e : UsageError) : Outcome :=
  { exitCode := refusedCode, usage := some e }

/-- Runs a command on a loaded trace. -/
def runLoaded (l : Loaded) : Command → m Outcome
  | .exportSite directory => do
    match ← writeSite l.graph directory with
    | .error e => return .ofFault (.file e)
    | .ok pages =>
      return {
        exitCode := 0
        stdout := screen [exportedLine directory pages]
        events := [.exported directory.toString pages] }
  | command => do
    let (exitCode, stdout) := answer l command
    return { exitCode, stdout }

/-- Runs a command on the trace that the settings name. -/
def runCommand (env : Environment) (file : Option Path) (setup : Setup) (command : Command) :
    m Outcome := do
  let (events, result) ← openTrace env file
  let outcome ← match result with
    | .error f => pure (Outcome.ofFault f)
    | .ok l => runLoaded l command
  return { outcome with setup := some setup, events := setup.admit (events ++ outcome.events) }

/-- An account of the commands and options. -/
def helpLines : List String :=
  ["Usage: calltree [--file FILE] [--log-level LEVEL] COMMAND [ARGS]", "",
   "Browse the call graph recorded in a call-tree trace.", "",
   "  classes [--json]", "  class NAME [--json]", "  entrypoints [--json]",
   "  method CLASS SIGNATURE [--json]", "  trace CLASS SIGNATURE [--depth N] [--json]",
   "  stats [--json]", "  export DIRECTORY"]

/-- A run that shows the account. -/
def helpOutcome : Outcome :=
  { exitCode := 0, stdout := unlines helpLines }

/-- Runs the program on a command line that `reader` reads. The program's options are read first, then the log is
set up, then the command is read, then the trace is loaded; the first of these to fail ends the run. -/
def runWith (reader : Reader) (env : Environment) (args : List String) : m Outcome :=
  match reader.invocation env args with
  | .error e => pure (.ofUsage e)
  | .ok .help => pure helpOutcome
  | .ok (.run i) =>
    match Setup.choose env (some i.logLevel) none with
    | .error e => pure (.ofFault (.level e))
    | .ok setup =>
      match reader.command i.command i.arguments with
      | .error e => pure (.ofUsage e)
      | .ok .help => pure helpOutcome
      | .ok (.run command) => runCommand env i.file setup command

/-- Runs the program. -/
def run (env : Environment) (args : List String) : m Outcome :=
  runWith reader env args

end

end CallAtlas.Cli
