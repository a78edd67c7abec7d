import CallAtlas.Trace.Record

/-!
# The call graph

A directed graph of typed calls between methods. Classes and methods are numbered from 0 in the order
in which they come; a call stands both with its caller (`MethodNode.forward`) and with the method
called (`MethodNode.reverse`). The graph is filled first and then frozen: from then on nothing can be
added.

- `addClass`, `addMethod`, `addEntrypoint`, `addEdge`, `freeze` fill the graph;
- `class?`, `method?` find by name, `methodAt` by position;
- `GraphError`, `PositionError` are what these can refuse.
-/

namespace CallAtlas.Graph

/-- The number of a class. -/
abbrev ClassId := Nat

/-- The number of a method. -/
abbrev MethodId := Nat

/-- A call of one type from one method to another. -/
structure CallEdge where
  callType : String
  caller : MethodId
  callee : MethodId
  deriving DecidableEq, Repr, Inhabited

/-- A method, with the calls that it makes and those that reach it. -/
structure MethodNode where
  id : MethodId
  classId : ClassId
  name : MethodName
  forward : List CallEdge := []
  reverse : List CallEdge := []
  deriving DecidableEq, Repr, Inhabited

/-- A method in the table of its class. -/
structure Member where
  signature : String
  id : MethodId
  deriving DecidableEq, Repr, Inhabited

/-- A class, with the table of its methods. -/
structure ClassNode where
  id : ClassId
  name : String
  members : List Member := []
  deriving DecidableEq, Repr, Inhabited

/-- A class in the index by name. -/
structure ClassEntry where
  name : String
  id : ClassId
  deriving DecidableEq, Repr, Inhabited

/-- The call graph. The classes are also kept by name, and the entry points also as a set. -/
structure CallGraph where
  classIndex : Array ClassEntry := #[]
  classes : Array ClassNode := #[]
  methods : Array MethodNode := #[]
  entrypoints : Array MethodId := #[]
  entryIds : List MethodId := []
  numEdges : Nat := 0
  frozen : Bool := false
  deriving DecidableEq, Repr, Inhabited

/-- What a change of the graph can be refused for. -/
inductive GraphError where
  /-- The graph is frozen. -/
  | frozen
  /-- The class is not one of the graph. -/
  | unknownClass
  /-- The method is not one of the graph. -/
  | unknownMethod
  deriving DecidableEq, Repr

/-- The refusal in words. -/
def GraphError.message : GraphError → String
  | .frozen => "Call graph is frozen"
  | .unknownClass => "no class"
  | .unknownMethod => "no method"

/-- What a look-up by position can be refused for. -/
inductive PositionError where
  /-- There is no such position. -/
  | outOfRange
  /-- The position is no signed 64 bit number. -/
  | tooWide
  deriving DecidableEq, Repr

/-- The end of the positions that fit 64 bits with a sign, which is the 63rd power of two. -/
def positionLimit : Int := 9223372036854775808

/-- The refusal in words. -/
def PositionError.message : PositionError → String
  | .outOfRange => "list index out of range"
  | .tooWide => "cannot fit 'int' into an index-sized integer"

/-- The method of that signature in the table of the class. -/
def ClassNode.find? (c : ClassNode) (signature : String) : Option MethodId :=
  (c.members.find? fun m => m.signature == signature).map (·.id)

namespace CallGraph

variable (g : CallGraph)

/-! ## Look-up -/

/-- How many classes there are. -/
def numClasses : Nat := g.classes.size

/-- How many methods there are. -/
def numMethods : Nat := g.methods.size

/-- The class that the index has under that name. -/
def class? (name : String) : Option ClassNode :=
  (g.classIndex.find? fun x => x.name == name).bind fun x => g.classes[x.id]?

/-- The number of the method of that name. -/
def methodId? (name : MethodName) : Option MethodId :=
  (g.class? name.className).bind fun c => c.find? name.signature

/-- The method of that name. -/
def method? (name : MethodName) : Option MethodNode :=
  (g.methodId? name).bind fun id => g.methods[id]?

/-- Whether the method is one of the set of entry points. -/
def isEntrypoint (id : MethodId) : Bool :=
  g.entryIds.contains id

/-- Whether a number is that of a method. -/
def contains (id : Int) : Bool :=
  0 ≤ id && id < g.methods.size

/-- The method at a position; negative positions count from the end, from -1. -/
def methodAt (position : Int) : Except PositionError MethodNode :=
  if position < -positionLimit ∨ positionLimit ≤ position then .error .tooWide
  else
    let index := if position < 0 then position + g.methods.size else position
    if index < 0 then .error .outOfRange
    else
      match g.methods[index.toNat]? with
      | some m => .ok m
      | none => .error .outOfRange

/-! ## Change

Each change gives the graph after it and what came of it. A change that is refused leaves the graph as it
is. -/

/-- The number of the class of that name, which comes to the graph if it is not there. -/
def addClass (name : String) : CallGraph × Except GraphError ClassId :=
  match g.class? name with
  | some c => (g, .ok c.id)
  | none =>
    if g.frozen then (g, .error .frozen)
    else
      let id := g.classes.size
      ({ g with
        classIndex := g.classIndex.push { name, id }
        classes := g.classes.push { id, name } }, .ok id)

/-- The number of the class's method of that signature, which comes to the graph if it is not
there. -/
def addMethod (classId : ClassId) (signature : String) : CallGraph × Except GraphError MethodId :=
  match g.classes[classId]? with
  | none => (g, .error .unknownClass)
  | some c =>
    match c.find? signature with
    | some id => (g, .ok id)
    | none =>
      if g.frozen then (g, .error .frozen)
      else
        let id := g.methods.size
        let node : MethodNode := { id, classId := c.id, name := ⟨c.name, signature⟩ }
        ({ g with
          classes := g.classes.modify classId fun c => { c with members := ⟨signature, id⟩ :: c.members }
          methods := g.methods.push node }, .ok id)

/-- The number of the method of that name; it and its class come to the graph if they are not
there. -/
def addNamed (name : MethodName) : CallGraph × Except GraphError MethodId :=
  match g.addClass name.className with
  | (g, .error e) => (g, .error e)
  | (g, .ok classId) => g.addMethod classId name.signature

/-- Makes the method an entry point; `false` if it is one already. -/
def addEntrypoint (id : MethodId) : CallGraph × Except GraphError Bool :=
  if g.frozen then (g, .error .frozen)
  else if g.methods.size ≤ id then (g, .error .unknownMethod)
  else if g.isEntrypoint id then (g, .ok false)
  else
    ({ g with entryIds := id :: g.entryIds, entrypoints := g.entrypoints.push id }, .ok true)

/-- Adds a call; `false` if it is there already. -/
def addEdge (edge : CallEdge) : CallGraph × Except GraphError Bool :=
  if g.frozen then (g, .error .frozen)
  else
    match g.methods[edge.caller]? with
    | none => (g, .error .unknownMethod)
    | some caller =>
      if g.methods.size ≤ edge.callee then (g, .error .unknownMethod)
      else if edge ∈ caller.forward then (g, .ok false)
      else
        let withForward := g.methods.modify edge.caller fun m =>
          { m with forward := edge :: m.forward }
        let methods := withForward.modify edge.callee fun m =>
          { m with reverse := edge :: m.reverse }
        ({ g with methods, numEdges := g.numEdges + 1 }, .ok true)

/-- Ends the filling of the graph. -/
def freeze : CallGraph :=
  { g with frozen := true }

end CallGraph

/-! ## Summaries -/

/-- The graph's counts on one line. -/
def CallGraph.summary (g : CallGraph) : String :=
  "CallGraph(classes=" ++ toString g.numClasses ++ ", methods=" ++ toString g.numMethods ++
    ", edges=" ++ toString g.numEdges ++ ", entrypoints=" ++ toString g.entrypoints.size ++ ")"

/-- The method's name and counts on one line. -/
def MethodNode.summary (m : MethodNode) : String :=
  "MethodNode(" ++ m.name.qualified ++ ", out=" ++ toString m.forward.length ++
    ", in=" ++ toString m.reverse.length ++ ")"

/-- The class's name and count of methods on one line. -/
def ClassNode.summary (c : ClassNode) : String :=
  "ClassNode(" ++ c.name ++ ", methods=" ++ toString c.members.length ++ ")"

end CallAtlas.Graph
