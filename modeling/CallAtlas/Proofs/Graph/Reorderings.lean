import CallAtlas.Proofs.Graph.CallTrees
import CallAtlas.Proofs.Graph.Listings

/-!
# Answers and the order of calls

A method has its calls in no order of their own. In the graph of a trace the names tell the methods apart, so
that what calls are sorted by tells the calls of a method apart, and no answer shows the order in which they
are kept.

* `Text.ascending_eq_of_perm`: sorting forgets the order of items that the keys tell apart.
* `Legible.edge_eq_of_key`: type and qualified name of the other end tell the calls of a method apart;
  `Legible.ascends_children_grow`: so the children in a tree ascend strictly.
* `CallGraph.Reordered`: the same graph, with the calls of each method in any order; `Reordered.refs_eq`,
  `Reordered.steps_eq`, `Reordered.tree?_eq`: it has the same listings, and the same trees if its names are
  those of lines.
* `load_unambiguous`: all this for the graph of a trace.
-/

namespace CallAtlas.Text

variable {α : Type} {key : α → List String} {xs ys : List α}

/-- Sorting forgets the order of items that the keys tell apart. -/
theorem ascending_eq_of_perm (h : xs.Perm ys)
    (hkey : ∀ a ∈ xs, ∀ b ∈ xs, key a = key b → a = b) : ascending key xs = ascending key ys := by
  have hperm : (ascending key xs).Perm (ascending key ys) :=
    (ascending_perm key xs).trans (h.trans (ascending_perm key ys).symm)
  refine List.Perm.eq_of_pairwise (fun a b ha hb hab hba => ?_) (pairwise_ascending key xs)
    (pairwise_ascending key ys) hperm
  exact hkey a (mem_ascending.1 ha) b (h.mem_iff.2 (mem_ascending.1 hb)) (isOrder_leKey.antisymm hab hba)

end CallAtlas.Text

namespace CallAtlas.Graph

open Text (Ascends ascending)

namespace CallGraph

variable {g g' : CallGraph} {d : Direction} {path : List MethodId} {id i j : MethodId}
  {edge : Option CallEdge} {levels : Nat} {m m' : MethodNode}

/-! ## Names and keys that tell apart -/

/-- No two methods have one qualified name. -/
theorem Legible.qualified_injective (h : g.Legible) {name name' : MethodName}
    (hi : g.nameOf? i = some name) (hj : g.nameOf? j = some name')
    (heq : name.qualified = name'.qualified) : i = j := by
  rw [h.eq_of_qualified_eq hi hj heq] at hi
  exact h.nameOf?_injective hi hj

/-- Type and other end, by its qualified name, tell the calls of a method apart. -/
theorem Legible.edge_eq_of_key (h : g.Legible) (hm : g.methods[i]? = some m) {a b : CallEdge}
    (ha : a ∈ d.edges m) (hb : b ∈ d.edges m) (hkey : g.edgeKey d a = g.edgeKey d b) : a = b := by
  have hstep : g.Step d i a := ⟨m, hm, ha⟩
  have hstep' : g.Step d i b := ⟨m, hm, hb⟩
  obtain ⟨name, hname⟩ := exists_nameOf?_eq_some (h.target_lt hstep)
  obtain ⟨name', hname'⟩ := exists_nameOf?_eq_some (h.target_lt hstep')
  simp only [edgeKey, hname, hname', Option.map_some, Option.getD_some, List.cons.injEq, and_true] at hkey
  exact d.edge_ext hkey.1 ((h.step_iff.1 hstep).1.trans (h.step_iff.1 hstep').1.symm)
    (h.qualified_injective hname hname' hkey.2)

theorem Legible.nodup_map_edgeKey (h : g.Legible) (hm : g.methods[i]? = some m) :
    ((d.edges m).map (g.edgeKey d)).Nodup :=
  (h.edges_nodup hm).map_on fun _ ha _ hb => h.edge_eq_of_key hm ha hb

/-- The calls that a tree follows ascend strictly. -/
theorem Legible.ascends_branches (h : g.Legible) : Ascends (g.edgeKey d) (g.branches d path id) := by
  refine List.Pairwise.filter _ ?_
  unfold steps
  cases hm : g.methods[id]? with
  | none => exact .nil
  | some m => exact Text.ascends_ascending (h.nodup_map_edgeKey hm)

/-- The children of a node ascend strictly. -/
theorem Legible.ascends_children_grow (h : g.Legible) :
    Ascends (·.visit.key) (g.grow d levels path id edge).children := by
  cases levels with
  | zero => exact .nil
  | succ levels =>
    have hkey : ∀ x ∈ g.branches d path id,
        (g.grow d levels (id :: path) (d.target x) (some x)).visit.key = g.edgeKey d x := fun x hx => by
      rw [visit_grow, key_visitAt (h.target_lt (mem_branches_iff.1 hx).1)]
    rw [grow_succ, CallTree.children, Ascends, List.pairwise_map]
    refine h.ascends_branches.imp_of_mem fun {a b} ha hb hab => ?_
    rwa [hkey a ha, hkey b hb]

end CallGraph

/-! ## The same graph in another order -/

/-- The same method; its calls may be in another order. -/
structure MethodNode.Reordered (m m' : MethodNode) : Prop where
  id : m'.id = m.id
  classId : m'.classId = m.classId
  name : m'.name = m.name
  forward : m.forward.Perm m'.forward
  reverse : m.reverse.Perm m'.reverse

/-- The same graph; the calls of each method may be in another order. -/
structure CallGraph.Reordered (g g' : CallGraph) : Prop where
  classIndex : g'.classIndex = g.classIndex
  classes : g'.classes = g.classes
  entrypoints : g'.entrypoints = g.entrypoints
  entryIds : g'.entryIds.Perm g.entryIds
  numEdges : g'.numEdges = g.numEdges
  frozen : g'.frozen = g.frozen
  size : g'.methods.size = g.methods.size
  methods : ∀ {i : MethodId} {m m' : MethodNode}, g.methods[i]? = some m → g'.methods[i]? = some m' →
    m.Reordered m'

theorem MethodNode.Reordered.edges {m m' : MethodNode} (h : m.Reordered m') (d : Direction) :
    (d.edges m).Perm (d.edges m') := by
  cases d
  exacts [h.forward, h.reverse]

namespace CallGraph.Reordered

variable {g g' : CallGraph} {d : Direction} {i : MethodId} {m m' : MethodNode}

/-- Each position has the same method in both graphs, or none in either. -/
theorem cases (h : g.Reordered g') (i : MethodId) :
    (g.methods[i]? = none ∧ g'.methods[i]? = none) ∨
      ∃ m m', g.methods[i]? = some m ∧ g'.methods[i]? = some m' ∧ m.Reordered m' := by
  cases hm : g.methods[i]? with
  | none =>
    rw [Array.getElem?_eq_none_iff, ← h.size, ← Array.getElem?_eq_none_iff] at hm
    exact .inl ⟨rfl, hm⟩
  | some m =>
    have hlt := (Array.getElem?_eq_some_iff.1 hm).1
    rw [← h.size] at hlt
    have hm' := Array.getElem?_eq_getElem hlt
    exact .inr ⟨m, _, rfl, hm', h.methods hm hm'⟩

theorem nameOf?_eq (h : g.Reordered g') : g'.nameOf? = g.nameOf? := by
  funext i
  rcases h.cases i with ⟨hm, hm'⟩ | ⟨m, m', hm, hm', hsame⟩
  · rw [nameOf?, nameOf?, hm, hm']
  · rw [nameOf?, nameOf?, hm, hm', Option.map_some, Option.map_some, hsame.name]

theorem edgeKey_eq (h : g.Reordered g') (d : Direction) : g'.edgeKey d = g.edgeKey d := by
  funext e
  rw [edgeKey, edgeKey, h.nameOf?_eq]

/-- A listing of calls does not show their order, as its entries are told apart by their keys. -/
theorem refs_eq (h : g.Reordered g') (hsame : m.Reordered m') (d : Direction) (phrase : String → String) :
    g'.refs d phrase m' = g.refs d phrase m := by
  rw [refs, refs, h.nameOf?_eq]
  exact (Text.ascending_eq_of_perm ((hsame.edges d).filterMap _)
    fun _ _ _ _ => CallRef.key_injective).symm

/-- The calls to follow from a method are in one order. -/
theorem steps_eq (h : g.Reordered g') (hg : g.Legible) (d : Direction) (i : MethodId) :
    g'.steps d i = g.steps d i := by
  unfold steps
  rcases h.cases i with ⟨hm, hm'⟩ | ⟨m, m', hm, hm', hsame⟩ <;> rw [hm, hm']
  dsimp only
  rw [h.edgeKey_eq]
  exact (Text.ascending_eq_of_perm (hsame.edges d)
    fun _ ha _ hb => hg.edge_eq_of_key hm ha hb).symm

/-- The tree at a method is the same, by induction on the levels below it. -/
theorem grow_eq (h : g.Reordered g') (hg : g.Legible) (d : Direction) (levels : Nat)
    (path : List MethodId) (i : MethodId) (edge : Option CallEdge) :
    g'.grow d levels path i edge = g.grow d levels path i edge := by
  have hvisit : g'.visitAt path i edge = g.visitAt path i edge := by
    rw [visitAt, visitAt, h.nameOf?_eq]
  induction levels generalizing path i edge with
  | zero => rw [grow, grow, hvisit]
  | succ levels ih =>
    rw [grow_succ, grow_succ, hvisit, branches, branches, h.steps_eq hg]
    refine congrArg (CallTree.node _) (List.map_congr_left fun e _ => ih _ _ _ ?_)
    rw [visitAt, visitAt, h.nameOf?_eq]

theorem tree?_eq (h : g.Reordered g') (hg : g.Legible) (d : Direction) (root maxDepth : Int) :
    g'.tree? d root maxDepth = g.tree? d root maxDepth := by
  rw [tree?_eq_grow, tree?_eq_grow, contains, contains, h.size, h.grow_eq hg]

end CallGraph.Reordered

/-- **Names and answers of a trace are unambiguous.** In the graph of any lines no two methods have one
qualified name; the calls of a method, in either direction, differ in type or in the qualified name of the
other end, and the children of every node of a tree ascend strictly by these two. The trees and the listings
of calls are the same for every order in which the calls of the methods are kept. -/
theorem load_unambiguous (lines : List String) :
    let g := (load lines).graph
    (∀ (i j : MethodId) (m n : MethodNode), g.methods[i]? = some m → g.methods[j]? = some n →
      m.name.qualified = n.name.qualified → i = j) ∧
    (∀ (d : Direction) (i : MethodId) (m : MethodNode), g.methods[i]? = some m →
      ((d.edges m).map (g.edgeKey d)).Nodup) ∧
    (∀ d root maxDepth t, g.tree? d root maxDepth = some t → ∀ s ∈ t.routes.map (·.2),
      Ascends (·.visit.key) s.children) ∧
    ∀ g', g.Reordered g' →
      (∀ d root maxDepth, g'.tree? d root maxDepth = g.tree? d root maxDepth) ∧
      ∀ (i : MethodId) (m m' : MethodNode), g.methods[i]? = some m → g'.methods[i]? = some m' →
        g'.forwardRefs m' = g.forwardRefs m ∧ g'.reverseRefs m' = g.reverseRefs m := by
  intro g
  have hg : g.Legible := load_legible lines
  refine ⟨fun i j m n hm hn => ?_, fun d i m hm => hg.nodup_map_edgeKey hm,
    fun d root maxDepth t ht s hs => ?_, fun g' h => ⟨h.tree?_eq hg, fun i m m' hm hm' => ?_⟩⟩
  · exact hg.qualified_injective (by rw [CallGraph.nameOf?, hm, Option.map_some])
      (by rw [CallGraph.nameOf?, hn, Option.map_some])
  · obtain ⟨⟨es, s⟩, hmem, rfl⟩ := List.mem_map.1 hs
    rw [CallGraph.tree?_eq_grow] at ht
    split at ht
    · cases ht
      obtain ⟨path, j, -, -, rfl⟩ := CallGraph.exists_grow_of_mem_routes hmem
      exact hg.ascends_children_grow
    · cases ht
  · exact ⟨h.refs_eq (h.methods hm hm') .callees id, h.refs_eq (h.methods hm hm') .callers invertCallType⟩

/-- A method that calls two others. With its calls the other way round the graph is another one, and answers
alike. -/
theorem load_unambiguous_reversed :
    let lines := ["Call tree", "    entry Main.run():", "        calls Main.stop():", "        opens Log.add():"]
    let g := (load lines).graph
    let g' : CallGraph := { g with methods := g.methods.map fun m => { m with forward := m.forward.reverse } }
    g.Reordered g' ∧ g' ≠ g ∧
      (∀ d root maxDepth, g'.tree? d root maxDepth = g.tree? d root maxDepth) ∧
      ∃ m m', g.methods[0]? = some m ∧ g'.methods[0]? = some m' ∧
        (m.forward.map (g.edgeKey .callees)).Nodup ∧ g'.forwardRefs m' = g.forwardRefs m := by
  intro lines g g'
  have hsame : g.Reordered g' :=
    { classIndex := rfl
      classes := rfl
      entrypoints := rfl
      entryIds := .refl _
      numEdges := rfl
      frozen := rfl
      size := Array.size_map
      methods := by
        intro i m m' hm hm'
        rw [Array.getElem?_map, hm, Option.map_some, Option.some.injEq] at hm'
        subst hm'
        exact ⟨rfl, rfl, rfl, (List.reverse_perm _).symm, .refl _⟩ }
  have hgraph : g' ≠ g ∧ 0 < g.methods.size := by decide +kernel
  obtain ⟨-, hkeys, -, hanswers⟩ := load_unambiguous lines
  obtain ⟨htrees, hrefs⟩ := hanswers g' hsame
  have hm : g.methods[0]? = some g.methods[0] := Array.getElem?_eq_getElem hgraph.2
  have hm' : g'.methods[0]? = some { g.methods[0] with forward := g.methods[0].forward.reverse } := by
    rw [Array.getElem?_map, hm, Option.map_some]
  exact ⟨hsame, hgraph.1, htrees, _, _, hm, hm', hkeys .callees 0 _ hm, (hrefs 0 _ _ hm hm').1⟩

end CallAtlas.Graph
