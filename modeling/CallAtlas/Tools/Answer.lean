import CallAtlas.Browse.Encoding
import CallAtlas.Graph.Build
import CallAtlas.Graph.Tree
import CallAtlas.Text.Percent

/-!
# Answers of the tools

What a tool answers to a question with names and limits of the right kinds: always an object, which has a member
`error` where something is not found. A list stands in the member `results`.

- `lookup`: the signature that is meant, which may be given as it is or percent-encoded; what is there as it is wins;
- `classAnswer`, `methodAnswer`, `traceAnswer` and their like: the objects;
- `encodeTree`: a tree as JSON.
-/

namespace CallAtlas.Tools

open CallAtlas.Graph Browse

/-- An object that says what went wrong. -/
def errorObject (message : String) : Json :=
  .obj [("error", .str message)]

/-- There is no class of that name. -/
def noClass (name : String) : Json :=
  errorObject ("Class " ++ name ++ " not found")

/-- There is no method of that signature in the class. -/
def noMethod (signature : String) : Json :=
  errorObject ("Method " ++ signature ++ " not found")

/-- There is no method of that name where a trace is to start. -/
def noStart (className signature : String) : Json :=
  errorObject ("Method " ++ className ++ "." ++ signature ++ " not found")

/-- The signature that is meant: the one given if the class has a method of it, else the one that it decodes to if
the class has a method of that, else the one given. -/
def lookup (g : CallGraph) (className signature : String) : String :=
  match g.method? ⟨className, signature⟩ with
  | some _ => signature
  | none =>
    let decoded := Text.Percent.decode signature
    match g.method? ⟨className, decoded⟩ with
    | some _ => decoded
    | none => signature

/-! ## Trees -/

/-- The type of the call that leads to a node, inverted if `inverted`; no call leads to the root. -/
def encodeCallType (inverted : Bool) : Option CallEdge → Json
  | none => .null
  | some e => .str (if inverted then invertCallType e.callType else e.callType)

mutual

/-- A tree, with the types of its calls inverted if `inverted`. -/
def encodeTree (inverted : Bool) : CallTree → Json
  | .node v cs =>
    .obj [("class_name", .str v.name.className), ("signature", .str v.name.signature),
      ("call_type", encodeCallType inverted v.edge), ("depth", .nat v.depth),
      ("children", .arr (encodeTrees inverted cs))]

/-- The trees of a list. -/
def encodeTrees (inverted : Bool) : List CallTree → List Json
  | [] => []
  | t :: ts => encodeTree inverted t :: encodeTrees inverted ts

end

/-- A tree, or null. -/
def encodeTree? (inverted : Bool) : Option CallTree → Json
  | some t => encodeTree inverted t
  | none => .null

/-! ## Answers -/

/-- The names of the classes. -/
def classesAnswer (g : CallGraph) : Json :=
  .obj [("results", .arr (g.classNames.map .str))]

/-- The class of that name with its methods. -/
def classAnswer (g : CallGraph) (name : String) : Json :=
  match g.classInfo? name with
  | none => noClass name
  | some info => encodeClass info

/-- The entry points. -/
def entrypointsAnswer (g : CallGraph) : Json :=
  .obj [("results", .arr (g.entrypointNames.map encodeName))]

/-- The method of that name with its calls. -/
def methodAnswer (g : CallGraph) (className signature : String) : Json :=
  if (g.class? className).isNone then noClass className
  else
    let signature := lookup g className signature
    match g.methodInfo? ⟨className, signature⟩ with
    | none => noMethod signature
    | some info => encodeMethod info

/-- The trees around a method. -/
def traceObject (g : CallGraph) (start : MethodNode) (maxDepth : Int) : Json :=
  .obj [("start", .str start.name.qualified),
    ("callers", encodeTree? true (g.tree? .callers start.id maxDepth)),
    ("callees", encodeTree? false (g.tree? .callees start.id maxDepth))]

/-- The trees around the method of that name. -/
def traceAnswer (g : CallGraph) (className signature : String) (maxDepth : Int) : Json :=
  let signature := lookup g className signature
  match g.method? ⟨className, signature⟩ with
  | none => noStart className signature
  | some start => traceObject g start maxDepth

/-- The counts of the graph and of the run that made it. -/
def statsAnswer (l : Loaded) : Json :=
  .obj ([("classes", .nat l.graph.numClasses), ("methods", .nat l.graph.numMethods)] ++
    encodeCounts l.stats)

end CallAtlas.Tools
