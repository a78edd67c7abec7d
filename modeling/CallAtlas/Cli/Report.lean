import CallAtlas.Cli.Answer
import CallAtlas.Console.Markup

/-!
# Reports as text

The lines that a command shows when it is not asked for JSON, in the markup of `Console.Markup`. What comes
from a trace is escaped.
-/

namespace CallAtlas.Cli

open CallAtlas.Graph
open Console (escape)

/-- A number, filled up with blanks to a width. -/
def column (width n : Nat) : String :=
  let digits := toString n
  digits ++ String.ofList (List.replicate (width - digits.length) ' ')

/-- The names of the classes. -/
def classLines (g : CallGraph) : List String :=
  g.classNames.map fun name => "[cyan]" ++ escape name ++ "[/cyan]"

/-- The entry points. -/
def entrypointLines (g : CallGraph) : List String :=
  g.entrypointNames.map fun m =>
    "[cyan]" ++ escape m.className ++ "[/]." ++ escape m.signature

/-- A class with its methods. -/
def classInfoLines (info : ClassInfo) : List String :=
  ("[bold]class [cyan]" ++ escape info.name ++ "[/cyan][/]") :: info.methods.map fun m =>
    "  [dim]IN[/] " ++ column 6 m.reverseCount ++ " [dim]OUT[/] " ++ column 6 m.forwardCount ++ " " ++
      escape m.signature

/-- The calls seen from one side of a method, or a line that says that there are none. -/
def callLines (none : String) (calls : List CallRef) : List String :=
  if calls = [] then ["  [dim]" ++ none ++ "[/]"]
  else calls.map fun c => "  [dim]" ++ escape c.callType ++ "[/] " ++ escape c.method.qualified

/-- A method with its calls. -/
def methodInfoLines (info : MethodInfo) : List String :=
  ["[bold]method [cyan]" ++ escape info.method.signature ++ "[/cyan][/]",
   "  [dim]Class:[/] " ++ escape info.method.className, "", "[green]Calling:[/]"] ++
    callLines "No calls found" info.forward ++ ["", "[green]Called by:[/]"] ++
    callLines "No callers found" info.reverse

/-- The style of the names in a tree. -/
def treeStyle : Direction → String
  | .callers => "blue"
  | .callees => "cyan"

mutual

/-- The lines of a tree below its root, after `margin`. -/
def treeLines (d : Direction) (margin : String) : CallTree → List String
  | .node _ cs => forestLines d margin cs

/-- The lines of the trees under one node, each with a branch to its root. -/
def forestLines (d : Direction) (margin : String) : List CallTree → List String
  | [] => []
  | t :: ts =>
    let (branch, inner) := if ts.isEmpty then ("└─", "   ") else ("├─", "│  ")
    (margin ++ branch ++ " [dim]" ++ escape ((callLabel? d t.visit).getD "") ++ "[/] [" ++
        treeStyle d ++ "]" ++ escape t.visit.name.qualified ++ "[/]") ::
      treeLines d (margin ++ inner) t ++ forestLines d margin ts

end

/-- How many methods a tree has besides its root. -/
def othersIn : Option CallTree → Nat
  | none => 0
  | some t => t.size - 1

/-- The trees around a method. -/
def traceLines (info : TraceInfo) : List String :=
  let shown (d : Direction) (t : Option CallTree) : List String :=
    (t.map (treeLines d "")).getD []
  let callers := shown .callers info.callers
  let callees := shown .callees info.callees
  ["", "[bold yellow]▶ " ++ escape info.start.qualified ++ "[/]", ""] ++
    (if callers = [] then [] else "[dim]Callers:[/]" :: callers ++ [""]) ++
    (if callees = [] then [] else "[dim]Callees:[/]" :: callees) ++
    ["", "[dim]Callers: " ++ toString (othersIn info.callers) ++
      " | Callees: " ++ toString (othersIn info.callees) ++ "[/]"]

/-- The counts of the graph and of the run that made it. -/
def statsLines (g : CallGraph) (s : LoadStats) : List String :=
  ["Classes: " ++ toString g.numClasses, "Methods: " ++ toString g.numMethods,
   "Edges: " ++ toString s.edges, "Entry points: " ++ toString s.entrypoints] ++
  (if s.duplicateEdges = 0 then []
   else ["  [dim]Repeated calls merged: " ++ toString s.duplicateEdges ++ "[/]"]) ++
  (if s.malformed = 0 then []
   else ("  [red]Malformed lines: " ++ toString s.malformed ++ "[/red]") ::
     s.errors.map fun e => "    " ++ escape e) ++
  s.warnings.map fun w => "  [yellow]" ++ escape w ++ "[/yellow]"

end CallAtlas.Cli
