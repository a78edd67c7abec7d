import CallAtlas.Graph.Basic
import CallAtlas.Graph.Relation
import CallAtlas.Text.Order

/-!
# Questions to a call graph

- `classNames`, `entrypointNames`: what there is;
- `methodsOf?`, `classInfo?`: the methods of a class with how many calls they make and receive;
- `methodInfo?`: the calls of a method, each seen from that method: a call received has its type
  inverted (`invertCallType`).

Listings are in ascending order, entry points in the order in which they came.
-/

namespace CallAtlas.Graph

open Text (ascending)

/-- One end of a call, as seen from the other end. -/
structure CallRef where
  callType : String
  method : MethodName
  deriving DecidableEq, Repr, Inhabited

/-- What calls are ordered by: type, class, signature. -/
def CallRef.key (r : CallRef) : List String :=
  [r.callType, r.method.className, r.method.signature]

/-- A method of a class, with the number of calls it makes and of those it receives. -/
structure MethodSummary where
  signature : String
  forwardCount : Nat
  reverseCount : Nat
  deriving DecidableEq, Repr, Inhabited

/-- A class with its methods. -/
structure ClassInfo where
  name : String
  methods : List MethodSummary
  deriving DecidableEq, Repr, Inhabited

/-- A method with its calls. -/
structure MethodInfo where
  method : MethodName
  forward : List CallRef
  reverse : List CallRef
  deriving DecidableEq, Repr, Inhabited

/-- The numbers of the class's methods, by ascending signature. -/
def ClassNode.sortedMembers (c : ClassNode) : List Member :=
  ascending (fun m => [m.signature]) c.members

/-- The signatures of the class's methods, ascending. -/
def ClassNode.signatures (c : ClassNode) : List String :=
  c.sortedMembers.map (·.signature)

namespace CallGraph

variable (g : CallGraph)

/-- The names in the index of classes, ascending. -/
def classNames : List String :=
  ascending (fun name => [name]) (g.classIndex.toList.map (·.name))

/-- The name of the method with that number. -/
def nameOf? (id : MethodId) : Option MethodName :=
  g.methods[id]?.map (·.name)

/-- The entry points, in the order in which they came. -/
def entrypointNames : List MethodName :=
  g.entrypoints.toList.filterMap g.nameOf?

/-- The method with that number, with its counts of calls. -/
def summary? (id : MethodId) : Option MethodSummary :=
  g.methods[id]?.map fun m => ⟨m.name.signature, m.forward.length, m.reverse.length⟩

/-- The methods of the class, with their counts, by ascending signature. -/
def classMethods (c : ClassNode) : List MethodSummary :=
  c.sortedMembers.filterMap fun m => g.summary? m.id

/-- The methods of the class of that name. -/
def methodsOf? (name : String) : Option (List MethodSummary) :=
  (g.class? name).map g.classMethods

/-- The class of that name, with its methods. -/
def classInfo? (name : String) : Option ClassInfo :=
  (g.class? name).map fun c => ⟨c.name, g.classMethods c⟩

/-- The calls that the method makes. -/
def forwardRefs (m : MethodNode) : List CallRef :=
  ascending CallRef.key <|
    m.forward.filterMap fun e => (g.nameOf? e.callee).map fun name => ⟨e.callType, name⟩

/-- The calls that reach the method. -/
def reverseRefs (m : MethodNode) : List CallRef :=
  ascending CallRef.key <|
    m.reverse.filterMap fun e => (g.nameOf? e.caller).map fun name => ⟨invertCallType e.callType, name⟩

/-- The method of that name, with its calls. -/
def methodInfo? (name : MethodName) : Option MethodInfo :=
  (g.method? name).map fun m => ⟨m.name, g.forwardRefs m, g.reverseRefs m⟩

end CallGraph

end CallAtlas.Graph
