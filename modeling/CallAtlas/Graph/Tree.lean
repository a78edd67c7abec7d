import CallAtlas.Graph.Query

/-!
# Call trees

The tree of all that a method calls (`Direction.callees`), or of all that leads to it
(`Direction.callers`), to a limit of depth. A branch ends before it would come back to a method on its
own way from the root, so every branch is a path without repetition.

- `CallGraph.search`: the search for the tree, with one set of the methods on the way to where it is;
- `CallGraph.tree?`: the tree around a method; `CallGraph.tree?_eq_grow`: the same tree, grown without a set;
- `CallTree.toList`: its nodes, each before its children;
- `CallTree.size`: how many nodes it has.
-/

namespace CallAtlas.Graph

/-- The way in which a tree follows calls. -/
inductive Direction where
  | callees
  | callers
  deriving DecidableEq, Repr

/-- The calls to follow from a method. -/
def Direction.edges (d : Direction) (m : MethodNode) : List CallEdge :=
  match d with
  | .callees => m.forward
  | .callers => m.reverse

/-- The method that a call leads to. -/
def Direction.target (d : Direction) (e : CallEdge) : MethodId :=
  match d with
  | .callees => e.callee
  | .callers => e.caller

/-- A method in a tree: its distance from the root, and the call followed to it. -/
structure Visit where
  id : MethodId
  name : MethodName
  edge : Option CallEdge
  depth : Nat
  deriving DecidableEq, Repr, Inhabited

/-- A tree of methods. -/
inductive CallTree where
  | node (visit : Visit) (children : List CallTree)
  deriving Inhabited, Repr

namespace CallTree

/-- The method at the root. -/
def visit : CallTree → Visit
  | node v _ => v

/-- The trees below the root. -/
def children : CallTree → List CallTree
  | node _ cs => cs

mutual

/-- The nodes of the tree, each before its children. -/
def toList : CallTree → List Visit
  | node v cs => v :: forestToList cs

/-- The nodes of the trees, one tree after the other. -/
def forestToList : List CallTree → List Visit
  | [] => []
  | t :: ts => t.toList ++ forestToList ts

end

mutual

/-- How many nodes the tree has. -/
def size : CallTree → Nat
  | node _ cs => forestSize cs + 1

/-- How many nodes the trees have. -/
def forestSize : List CallTree → Nat
  | [] => 0
  | t :: ts => t.size + forestSize ts

end

mutual

theorem length_toList : ∀ t : CallTree, t.toList.length = t.size
  | node v cs => by simp [toList, size, length_forestToList cs]

theorem length_forestToList : ∀ ts : List CallTree, (forestToList ts).length = forestSize ts
  | [] => rfl
  | t :: ts => by simp [forestToList, forestSize, length_toList t, length_forestToList ts]

end

/-- The nodes of the tree, the root's children first, without the root. -/
def descendants (t : CallTree) : List Visit :=
  forestToList t.children

end CallTree

namespace CallGraph

variable (g : CallGraph)

/-- What the children of a node are ordered by: the type of the call, and the name of the method that
it leads to. -/
def edgeKey (d : Direction) (e : CallEdge) : List String :=
  [e.callType, ((g.nameOf? (d.target e)).map (·.qualified)).getD ""]

/-- The calls to follow from a method, in order. -/
def steps (d : Direction) (id : MethodId) : List CallEdge :=
  match g.methods[id]? with
  | none => []
  | some m => Text.ascending (g.edgeKey d) (d.edges m)

/-- Follows calls one after the other. Each finds a tree or none, and leaves the set of methods to the next one. -/
def followAll (follow : List MethodId → CallEdge → Option CallTree × List MethodId) (onPath : List MethodId) :
    List CallEdge → List CallTree × List MethodId
  | [] => ([], onPath)
  | e :: es =>
    let (found, onPath) := follow onPath e
    let (trees, onPath) := followAll follow onPath es
    (found.toList ++ trees, onPath)

/-- Searches from a method at that depth, on so many levels: none if there is no level left, or if the method is
in the set `onPath` of those on the way to it. The method is in the set while its calls are followed. -/
def search (d : Direction) : Nat → List MethodId → MethodId → Option CallEdge → Nat → Option CallTree × List MethodId
  | 0, onPath, _, _, _ => (none, onPath)
  | levels + 1, onPath, id, edge, depth =>
    if id ∈ onPath then (none, onPath)
    else
      let (trees, onPath) := followAll
        (fun onPath e => search d levels onPath (d.target e) (some e) (depth + 1)) (id :: onPath) (g.steps d id)
      (some (.node ⟨id, (g.nameOf? id).getD default, edge, depth⟩ trees), onPath.erase id)

/-- The tree around the method with that number; none if there is no such method, or if the limit is
negative. -/
def tree? (d : Direction) (root : Int) (maxDepth : Int) : Option CallTree :=
  if g.contains root then (g.search d (maxDepth + 1).toNat [] root.toNat none 0).1 else none

/-! ## The search without its set

The set leaves a search as it came, so it is the path to the method, and a tree is made of the trees below it. -/

/-- The visit of a method that `path` leads to, by the call `edge`. -/
def visitAt (path : List MethodId) (id : MethodId) (edge : Option CallEdge) : Visit :=
  ⟨id, (g.nameOf? id).getD default, edge, path.length⟩

/-- The tree at a method that `path` leads to, with so many more levels below it. -/
def grow (d : Direction) : Nat → List MethodId → MethodId → Option CallEdge → CallTree
  | 0, path, id, edge => .node (g.visitAt path id edge) []
  | levels + 1, path, id, edge =>
    .node (g.visitAt path id edge) <|
      ((g.steps d id).filter fun e => d.target e ∉ id :: path).map fun e =>
        grow d levels (id :: path) (d.target e) (some e)

variable {g}

/-- A loop over searches that restore the set collects what they find, and restores it too. -/
theorem followAll_eq {follow : List MethodId → CallEdge → Option CallTree × List MethodId}
    {found : CallEdge → Option CallTree} {onPath : List MethodId} (es : List CallEdge)
    (h : ∀ e, follow onPath e = (found e, onPath)) :
    followAll follow onPath es = (es.filterMap found, onPath) := by
  induction es with
  | nil => rfl
  | cons e es ih =>
    simp only [followAll, h, ih, List.filterMap_cons]
    cases found e <;> rfl

/-- A search restores the set, and finds the tree that grows at a method off the path. -/
theorem search_eq (d : Direction) (levels : Nat) (path : List MethodId) (id : MethodId) (edge : Option CallEdge) :
    g.search d (levels + 1) path id edge path.length =
      (if id ∈ path then none else some (g.grow d levels path id edge), path) := by
  induction levels generalizing path id edge with
  | zero =>
    have hnone : followAll (fun onPath e => g.search d 0 onPath (d.target e) (some e) (path.length + 1)) (id :: path)
        (g.steps d id) = ([], id :: path) := by
      have hfound : (g.steps d id).filterMap (fun _ => (none : Option CallTree)) = [] :=
        List.filterMap_eq_nil_iff.2 fun _ _ => rfl
      rw [followAll_eq _ fun e => rfl, hfound]
    rw [search, hnone]
    split
    · rfl
    · simp only [List.erase_cons_head]
      rfl
  | succ levels ih =>
    have hchildren : followAll
        (fun onPath e => g.search d (levels + 1) onPath (d.target e) (some e) (path.length + 1)) (id :: path)
        (g.steps d id) = (((g.steps d id).filter fun e => d.target e ∉ id :: path).map fun e =>
          g.grow d levels (id :: path) (d.target e) (some e), id :: path) := by
      rw [followAll_eq _ fun e => ih (id :: path) (d.target e) (some e), ← List.filterMap_eq_map,
        List.filterMap_filter]
      simp only [ite_not, decide_not, Bool.not_eq_true', decide_eq_false_iff_not, Function.comp_apply]
    rw [search, hchildren]
    split
    · rfl
    · simp only [List.erase_cons_head]
      rfl

/-- The tree around a method, without the set of the search. -/
theorem tree?_eq_grow (d : Direction) (root maxDepth : Int) : g.tree? d root maxDepth =
    if g.contains root && 0 ≤ maxDepth then some (g.grow d maxDepth.toNat [] root.toNat none) else none := by
  rw [tree?]
  cases g.contains root with
  | false => rfl
  | true =>
    by_cases h : 0 ≤ maxDepth
    · have hlevels : (maxDepth + 1).toNat = maxDepth.toNat + 1 := by omega
      have hsearch := g.search_eq d maxDepth.toNat [] root.toNat none
      rw [if_neg List.not_mem_nil, List.length_nil] at hsearch
      simp [hlevels, hsearch, h]
    · have hlevels : (maxDepth + 1).toNat = 0 := by omega
      simp [hlevels, search, h]

end CallGraph

end CallAtlas.Graph
