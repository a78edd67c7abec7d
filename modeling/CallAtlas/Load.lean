import CallAtlas.File.Store
import CallAtlas.Graph.Build
import CallAtlas.Log
import CallAtlas.Text.Lines
import CallAtlas.Text.Utf8

/-!
# Loading a trace file

A trace file is UTF-8; octets that are not are replaced. Its first line is a header.

- `loadOctets`: the graph and the counts of a file's content;
- `loadFile`: those of a file, or a `LoadError`, with the events to report in either case.
-/

namespace CallAtlas

open File (FileError Files Path)
open CallAtlas.Graph (Loaded)
open Log (Event)

/-- Why a trace file is not loaded. -/
inductive LoadError where
  /-- The operating system refuses to read it. -/
  | unreadable (path : Path) (cause : File.Failure)
  /-- The path has a null character. -/
  | nullCharacter
  deriving DecidableEq, Repr

/-- The error in words. -/
def LoadError.message : LoadError → String
  | .unreadable path cause =>
    "Cannot read call tree file " ++ path.toString ++ ": " ++ (FileError.refused cause path).message
  | .nullCharacter => FileError.nullCharacter.message

/-- The graph and the counts of a trace, from the octets of its file. -/
def loadOctets (octets : List UInt8) : Loaded :=
  Graph.load (Text.lines (Text.Utf8.decode octets))

/-- The event that reports a trace that has been loaded. -/
def loadedEvent (l : Loaded) (path : Path) : Event :=
  .loaded path.toString
    { classes := l.graph.numClasses
      methods := l.graph.numMethods
      edges := l.graph.numEdges
      entrypoints := l.stats.entrypoints
      malformed := l.stats.malformed }

/-- The trace in a file of that content, with the events to report. -/
def loadContent (path : Path) (content : Except FileError (List UInt8)) :
    List Event × Except LoadError Loaded :=
  let start := Event.loading path.toString
  match content with
  | .error (.refused cause path) => ([start], .error (.unreadable path cause))
  | .error .nullCharacter => ([start], .error .nullCharacter)
  | .ok octets =>
    let loaded := loadOctets octets
    (start :: loaded.stats.notices.toList.map .notice ++ [loadedEvent loaded path], .ok loaded)

/-- The trace in a file, with the events to report. -/
def loadFile {m : Type → Type} [Monad m] [Files m] (path : Path) :
    m (List Event × Except LoadError Loaded) := do
  return loadContent path (← Files.read path)

end CallAtlas
