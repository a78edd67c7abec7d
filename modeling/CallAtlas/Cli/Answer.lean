import CallAtlas.Browse.Encoding
import CallAtlas.Graph.Tree
import CallAtlas.Text.Percent

/-!
# Answers of the commands

What a command finds, before it is shown as JSON or as lines, and its JSON.

- `resolve`: the name that is meant; a signature may be given as it is or percent-encoded, and what is there as it
  is wins;
- `findClass`, `findMethod`, `findTrace`: what is found, or `NotFound`;
- `encodeTrace` and its like: the JSON.
-/

namespace CallAtlas.Cli

open CallAtlas.Graph Browse

/-- What was asked for is not in the graph. -/
inductive NotFound where
  | noClass (name : String)
  | noMethod (signature : String)
  | noStart (name : MethodName)
  deriving DecidableEq, Repr

/-- The refusal in words. -/
def NotFound.message : NotFound → String
  | .noClass name => "Class " ++ name ++ " not found"
  | .noMethod signature => "Method " ++ signature ++ " not found"
  | .noStart name => "Method " ++ name.qualified ++ " not found"

/-- The refusal as JSON. -/
def NotFound.encode (e : NotFound) : Json :=
  .obj [("error", .str e.message)]

/-- The trees around a method; none if the limit of depth is negative. -/
structure TraceInfo where
  start : MethodName
  callers : Option CallTree
  callees : Option CallTree

/-! ## What is found -/

/-- The name that is meant: with its signature decoded if there is a method of that name and none of the name as it
is, else as it is. -/
def resolve (g : CallGraph) (name : MethodName) : MethodName :=
  let decoded := { name with signature := Text.Percent.decode name.signature }
  if (g.method? name).isNone && (g.method? decoded).isSome then decoded else name

/-- The class of that name with its methods. -/
def findClass (g : CallGraph) (name : String) : Except NotFound ClassInfo :=
  match g.classInfo? name with
  | some info => .ok info
  | none => .error (.noClass name)

/-- The method of that name with its calls. -/
def findMethod (g : CallGraph) (name : MethodName) : Except NotFound MethodInfo :=
  if (g.class? name.className).isNone then .error (.noClass name.className)
  else
    let name := resolve g name
    match g.methodInfo? name with
    | some info => .ok info
    | none => .error (.noMethod name.signature)

/-- The trees around the method of that name. -/
def findTrace (g : CallGraph) (name : MethodName) (maxDepth : Int) : Except NotFound TraceInfo :=
  let name := resolve g name
  match g.method? name with
  | none => .error (.noStart name)
  | some m => .ok ⟨m.name, g.tree? .callers m.id maxDepth, g.tree? .callees m.id maxDepth⟩

/-- The type of the call to a node, phrased from the node's side of the tree; the root has none. -/
def callLabel? (d : Direction) (v : Visit) : Option String :=
  v.edge.map fun e =>
    match d with
    | .callees => e.callType
    | .callers => invertCallType e.callType

/-! ## As JSON -/

/-- The names of the classes. -/
def encodeClassNames (g : CallGraph) : Json :=
  .arr (g.classNames.map .str)

/-- The entry points. -/
def encodeEntrypoints (g : CallGraph) : Json :=
  .arr (g.entrypointNames.map encodeName)

mutual

/-- A tree. -/
def encodeTree (d : Direction) : CallTree → Json
  | .node v cs =>
    .obj [("class_name", .str v.name.className), ("signature", .str v.name.signature),
      ("call_type", .str? (callLabel? d v)), ("depth", .nat v.depth),
      ("children", .arr (encodeForest d cs))]

/-- The trees of a list. -/
def encodeForest (d : Direction) : List CallTree → List Json
  | [] => []
  | t :: ts => encodeTree d t :: encodeForest d ts

end

/-- The trees around a method. -/
def encodeTrace (info : TraceInfo) : Json :=
  let side (d : Direction) (t : Option CallTree) : Json := (t.map (encodeTree d)).getD .null
  .obj [("start", .str info.start.qualified), ("callers", side .callers info.callers),
    ("callees", side .callees info.callees)]

/-- The counts of the graph and of the run that made it. -/
def encodeStats (g : CallGraph) (s : LoadStats) : Json :=
  .obj ([("classes", .nat g.numClasses), ("methods", .nat g.numMethods)] ++ encodeCounts s)

end CallAtlas.Cli
