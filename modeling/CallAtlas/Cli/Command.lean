import CallAtlas.Cli.Options
import CallAtlas.File.Error
import CallAtlas.Settings
import CallAtlas.Text.Numeral
import CallAtlas.Trace.Record

/-!
# Commands

A command line is the options of the program, the name of a command, and the options and arguments of
that command.

- `Invocation.parse`: the options of the program and the command that is to follow;
- `Command.parse`: the command;
- `Reader`: a way to read both, of which `reader` is the one above.
-/

namespace CallAtlas.Cli

open File (Path)

/-- A command. -/
inductive Command where
  | classes (asJson : Bool)
  | classMethods (name : String) (asJson : Bool)
  | entrypoints (asJson : Bool)
  | method (name : MethodName) (asJson : Bool)
  | trace (name : MethodName) (maxDepth : Int) (asJson : Bool)
  | stats (asJson : Bool)
  | exportSite (directory : Path)
  deriving DecidableEq, Repr

/-- What a command line asks for, if it is not refused. -/
inductive Request (α : Type) where
  /-- An account of the options and arguments. -/
  | help
  | run (a : α)
  deriving DecidableEq, Repr

/-- The options of the program, and the rest of its command line. -/
structure Invocation where
  file : Option Path
  logLevel : String
  command : String
  arguments : List String
  deriving DecidableEq, Repr

/-- The option that asks for an account of the options and arguments. -/
def helpOption : OptionSpec := { long := "--help" }

/-- The option that asks for JSON. -/
def jsonOption : OptionSpec := { long := "--json", short := some 'j' }

/-- The option that names the trace file. -/
def fileOption : OptionSpec := { long := "--file", short := some 'f', takesValue := true }

/-- The option that sets the level of the log. -/
def logLevelOption : OptionSpec := { long := "--log-level", takesValue := true }

/-- The option that limits the depth of a trace. -/
def depthOption : OptionSpec := { long := "--depth", short := some 'd', takesValue := true }

/-- The names of the commands. -/
def commandNames : List String :=
  ["classes", "class", "entrypoints", "method", "trace", "stats", "export"]

/-- The level of the log where nothing sets it. -/
def defaultLogLevel : String := "WARNING"

/-- The limit of depth where nothing sets it. -/
def defaultDepth : Int := 5

/-- The path that is given. -/
def pathOf (text : String) : Except UsageError Path :=
  let path := Path.ofString text
  if path.hasNull then .error (.nullCharacter text) else .ok path

/-- The program's part of a command line. An option that is not given is taken from the environment, if
it is set there to anything but the empty text. -/
def Invocation.parse (env : Environment) (args : List String) :
    Except UsageError (Request Invocation) :=
  match scan [fileOption, logLevelOption, helpOption] false args with
  | .error e => .error e
  | .ok s =>
    if s.has helpOption.long then .ok .help
    else
      let file := (s.value? fileOption.long).or (env.traceFile.filter (· ≠ ""))
      let logLevel := ((s.value? logLevelOption.long).or (env.logLevel.filter (· ≠ ""))).getD
        defaultLogLevel
      match file.mapM pathOf, s.arguments with
      | .error e, _ => .error e
      | .ok _, [] => .error .missingCommand
      | .ok file, command :: arguments =>
        if command ∈ commandNames then .ok (.run ⟨file, logLevel, command, arguments⟩)
        else .error (.noSuchCommand command)

/-- The arguments, if there are none. -/
def noArgument : List String → Except UsageError Unit
  | [] => .ok ()
  | extra :: _ => .error (.extraArgument extra)

/-- The arguments, if there is one. -/
def oneArgument : List String → Except UsageError String
  | [] => .error .missingArgument
  | [a] => .ok a
  | _ :: extra :: _ => .error (.extraArgument extra)

/-- The arguments, if there are two: a class and a signature. -/
def nameArguments : List String → Except UsageError MethodName
  | [] => .error .missingArgument
  | [_] => .error .missingArgument
  | [className, signature] => .ok ⟨className, signature⟩
  | _ :: _ :: extra :: _ => .error (.extraArgument extra)

/-- The limit of depth that is given. -/
def depthOf (s : Scanned) : Except UsageError Int :=
  match s.value? depthOption.long with
  | none => .ok defaultDepth
  | some text =>
    match Text.integer? text with
    | some depth => .ok depth
    | none => .error (.notAnInteger text)

/-- The options of the command of that name. -/
def optionsOf (command : String) : List OptionSpec :=
  match command with
  | "export" => [helpOption]
  | "trace" => [depthOption, jsonOption, helpOption]
  | _ => [jsonOption, helpOption]

/-- The command of that name with the options and arguments read. -/
def Command.ofScanned (command : String) (s : Scanned) : Except UsageError Command :=
  let asJson := s.has jsonOption.long
  match command with
  | "classes" => (noArgument s.arguments).map fun _ => .classes asJson
  | "class" => (oneArgument s.arguments).map (.classMethods · asJson)
  | "entrypoints" => (noArgument s.arguments).map fun _ => .entrypoints asJson
  | "method" => (nameArguments s.arguments).map (.method · asJson)
  | "trace" =>
    match depthOf s with
    | .error e => .error e
    | .ok depth => (nameArguments s.arguments).map (.trace · depth asJson)
  | "stats" => (noArgument s.arguments).map fun _ => .stats asJson
  | "export" => (oneArgument s.arguments).bind fun a => (pathOf a).map .exportSite
  | _ => .error (.noSuchCommand command)

/-- The command of that name with its options and arguments. -/
def Command.parse (command : String) (args : List String) :
    Except UsageError (Request Command) :=
  match scan (optionsOf command) true args with
  | .error e => .error e
  | .ok s =>
    if s.has helpOption.long then .ok .help
    else (Command.ofScanned command s).map .run

/-- A way to read command lines: the program's part, then the command's. -/
structure Reader where
  invocation : Environment → List String → Except UsageError (Request Invocation)
  command : String → List String → Except UsageError (Request Command)

/-- The options and commands above. -/
def reader : Reader :=
  ⟨Invocation.parse, Command.parse⟩

end CallAtlas.Cli
