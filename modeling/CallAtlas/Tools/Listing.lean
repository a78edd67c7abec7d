import CallAtlas.Json.Basic
import CallAtlas.Tools.Dispatch

/-!
# The listing of tools

What a caller is told about the tools of `Dispatch`: the name and purpose of each, and the arguments
that it takes.
-/

namespace CallAtlas.Tools

/-- The name under which the tools are served. -/
def serverName : String := "calltree"

/-- The kind of an argument's value. -/
inductive Kind where
  | text
  | integer (absent : Int)
  deriving DecidableEq, Repr

/-- An argument of a tool; one that has a default may be left out. -/
structure Parameter where
  name : String
  kind : Kind
  description : String
  deriving DecidableEq, Repr

/-- What a caller is told about a tool. -/
structure Tool where
  name : String
  description : String
  parameters : List Parameter := []
  deriving DecidableEq, Repr

/-- Whether the argument must be given. -/
def Parameter.isRequired (p : Parameter) : Bool :=
  match p.kind with
  | .text => true
  | .integer _ => false

/-- The schema of an argument's value. -/
def Parameter.schema (p : Parameter) : Json :=
  match p.kind with
  | .text => .obj [("type", .str "string"), ("description", .str p.description)]
  | .integer absent =>
    .obj [("type", .str "integer"), ("description", .str p.description), ("default", .int absent)]

/-- The schema of a tool's arguments. -/
def Tool.schema (t : Tool) : Json :=
  let required := t.parameters.filter (·.isRequired)
  .obj <|
    [("type", .str "object"), ("properties", .obj (t.parameters.map fun p => (p.name, p.schema)))] ++
    if required = [] then [] else [("required", .arr (required.map fun p => .str p.name))]

/-- What a caller is told, as JSON. -/
def Tool.encode (t : Tool) : Json :=
  .obj [("name", .str t.name), ("description", .str t.description), ("inputSchema", t.schema)]

/-- The argument that names a class. -/
def classParameter : Parameter :=
  ⟨"class_name", .text, "Fully qualified class name, e.g. java.util.ArrayList"⟩

/-- The argument that gives a signature. -/
def signatureParameter : Parameter :=
  ⟨"signature", .text, "Method signature as listed for the class, e.g. size()"⟩

/-- The argument that limits the depth of a trace. -/
def depthParameter : Parameter :=
  ⟨"max_depth", .integer defaultDepth, "Maximum depth to trace (default: 5)"⟩

/-- The tools. -/
def tools : List Tool :=
  [{ name := "calltree_classes"
     description := "List every class that appears in the call tree, sorted by name." },
   { name := "calltree_class"
     description := "List the methods of a class with the number of calls each makes (forward) " ++
       "and receives (reverse)."
     parameters := [classParameter] },
   { name := "calltree_entrypoints"
     description := "List the entry points of the call tree in the order they were recorded." },
   { name := "calltree_method"
     description := "Show what a method calls and what calls it. Reverse calls are phrased from " ++
       "the method's side, e.g. 'virtually called by' or 'overrides'."
     parameters := [classParameter, signatureParameter] },
   { name := "calltree_trace"
     description := "Trace the caller and callee trees around a method. Recursive chains are cut " ++
       "where they would revisit a method already on the path."
     parameters := [classParameter, signatureParameter, depthParameter] },
   { name := "calltree_stats"
     description := "Get statistics about the loaded call tree." }]

/-- The listing as JSON. -/
def listing : Json :=
  .obj [("server", .str serverName), ("tools", .arr (tools.map Tool.encode))]

end CallAtlas.Tools
