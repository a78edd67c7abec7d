import CallAtlas.Cli.Run

/-!
# The program

The file system of the machine, and `main`: it takes the settings from the environment, runs the command
line, shows the outcome and the log, and gives the exit code.
-/

namespace CallAtlas

open File (Failure FileError Files Path)

/-- The cause with that number, which some system calls report as a negative one. -/
def failureOfNumber (number : UInt32) (text : String) : Failure :=
  match number.toInt32.toInt.natAbs with
  | 2 => .noEntry
  | 17 => .entryExists
  | 20 => .notDirectory
  | 21 => .isDirectory
  | 36 => .nameTooLong
  | n => .other n text

/-- The cause that the system reports. -/
def failureOfError : IO.Error → Failure
  | .noFileOrDirectory .. => .noEntry
  | .alreadyExists .. => .entryExists
  | .inappropriateType _ number text => failureOfNumber number text
  | .invalidArgument _ number text => failureOfNumber number text
  | .permissionDenied _ number text => failureOfNumber number text
  | .otherError number text => failureOfNumber number text
  | e => .other 5 e.toString

/-- Runs an action on the file of that path. -/
def onFile {α : Type} (path : Path) (action : String → IO α) : IO (Except FileError α) :=
  if path.hasNull then return .error .nullCharacter
  else
    try
      return .ok (← action path.toString)
    catch e =>
      return .error (.refused (failureOfError e) path)

instance : Files IO where
  read path := onFile path fun name => do
    return (← IO.FS.readBinFile name).toList
  write path text := do
    match ← onFile path.parent fun name => IO.FS.createDirAll name with
    | .ok () => onFile path fun name => IO.FS.writeFile name text
    | .error e => return .error e

/-- The settings in the environment. -/
def environment : IO Environment := do
  return {
    traceFile := ← IO.getEnv "CALLTREE_FILE"
    logLevel := ← IO.getEnv "CALLTREE_LOG_LEVEL"
    logFormat := ← IO.getEnv "CALLTREE_LOG_FORMAT"
    home := ← IO.getEnv "HOME" }

/-- Shows what a run leaves: the answer, and on the error stream the log and the error. -/
def Cli.Outcome.emit (outcome : Cli.Outcome) : IO UInt32 := do
  let asJson := outcome.setup.any (·.asJson)
  for event in outcome.events do
    IO.eprintln (if asJson then event.encode.compact else event.fullLine)
  IO.print outcome.stdout
  if let some e := outcome.usage then
    IO.eprintln ("Error: " ++ e.message)
  if let some f := outcome.fault then
    IO.eprintln ("Error: " ++ f.message)
  return outcome.exitCode.toUInt32

end CallAtlas

/-- Runs the command line. -/
def main (args : List String) : IO UInt32 := do
  (← CallAtlas.Cli.run (← CallAtlas.environment) args).emit
