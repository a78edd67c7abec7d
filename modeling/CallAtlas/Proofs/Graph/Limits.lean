import CallAtlas.Proofs.Graph.CallTrees

/-!
# Limits of depth

A larger limit only extends a tree, up to a limit from which on there is nothing to extend.

* `CallTree.upTo`: a tree without the nodes that are too deep; `upTo_eq_self`: it is the tree if there are none.
* `upTo_grow`: a tree that is grown to more levels is, without the deeper nodes, the one that is grown to fewer;
  `toList_upTo_grow`: its nodes are the others, in their order.
* `CallsAgree.depth_lt`: no node is as deep as the graph has methods, since its way is a simple path.
* `tree_limited`: the trees around a method for all limits.
-/

namespace CallAtlas.Graph

namespace CallTree

mutual

/-- The tree without the nodes below the root that are deeper than the limit. -/
def upTo (limit : Nat) : CallTree → CallTree
  | node v cs => node v (forestUpTo limit cs)

/-- The trees without the nodes that are deeper than the limit. -/
def forestUpTo (limit : Nat) : List CallTree → List CallTree
  | [] => []
  | t :: ts => if t.visit.depth ≤ limit then t.upTo limit :: forestUpTo limit ts else forestUpTo limit ts

end

variable {limit : Nat} {ts : List CallTree}

theorem forestUpTo_of_le (h : ∀ t ∈ ts, t.visit.depth ≤ limit) : forestUpTo limit ts = ts.map (upTo limit) := by
  induction ts with
  | nil => rfl
  | cons t ts ih =>
    obtain ⟨ht, hts⟩ := List.forall_mem_cons.1 h
    rw [forestUpTo, if_pos ht, ih hts, List.map_cons]

theorem forestUpTo_of_lt (h : ∀ t ∈ ts, limit < t.visit.depth) : forestUpTo limit ts = [] := by
  induction ts with
  | nil => rfl
  | cons t ts ih =>
    obtain ⟨ht, hts⟩ := List.forall_mem_cons.1 h
    rw [forestUpTo, if_neg (by omega), ih hts]

mutual

/-- A tree without nodes that are too deep stays. -/
theorem upTo_eq_self : ∀ t : CallTree, (∀ v ∈ t.toList, v.depth ≤ limit) → t.upTo limit = t
  | node v cs, h => by
    have hcs : ∀ w ∈ forestToList cs, w.depth ≤ limit := fun w hw => h w (List.mem_cons_of_mem v hw)
    rw [upTo, forestUpTo_eq_self cs hcs]

theorem forestUpTo_eq_self : ∀ ts : List CallTree, (∀ v ∈ forestToList ts, v.depth ≤ limit) →
    forestUpTo limit ts = ts
  | [], _ => rfl
  | t :: ts, h => by
    rw [forestToList, List.forall_mem_append] at h
    have hroot : t.visit.depth ≤ limit := h.1 t.visit (by simp [toList_eq_cons])
    rw [forestUpTo, if_pos hroot, upTo_eq_self t h.1, forestUpTo_eq_self ts h.2]

end

end CallTree

namespace CallGraph

variable {g : CallGraph} {d : Direction} {path : List MethodId} {id : MethodId} {edge : Option CallEdge}
  {levels limit : Nat}

/-! ## Trees grown to more levels -/

/-- The trees below a node stand one deeper than the node. -/
theorem forall_mem_children_grow : ∀ t ∈ (g.grow d levels path id edge).children,
    t.visit.depth = path.length + 1 := by
  cases levels with
  | zero => simp [grow, CallTree.children]
  | succ levels => simp [grow_succ, CallTree.children, visitAt]

theorem upTo_grow_succ : (g.grow d (levels + 1) path id edge).upTo limit =
    .node (g.visitAt path id edge) (if path.length < limit then
      (g.branches d path id).map fun e => (g.grow d levels (id :: path) (d.target e) (some e)).upTo limit
    else []) := by
  have hdepth : ∀ t ∈ (g.grow d (levels + 1) path id edge).children, t.visit.depth = path.length + 1 :=
    forall_mem_children_grow
  rw [grow_succ, CallTree.children] at hdepth
  rw [grow_succ, CallTree.upTo]
  split
  · rw [CallTree.forestUpTo_of_le fun t ht => by rw [hdepth t ht]; omega, List.map_map]
    rfl
  · rw [CallTree.forestUpTo_of_lt fun t ht => by rw [hdepth t ht]; omega]

/-- A tree without the nodes that are too deep is grown to as many levels as the limit leaves. -/
theorem upTo_grow (h : path.length ≤ limit) : (g.grow d levels path id edge).upTo limit =
    g.grow d (min levels (limit - path.length)) path id edge := by
  induction levels generalizing path id edge with
  | zero => simp [grow, CallTree.upTo, CallTree.forestUpTo]
  | succ levels ih =>
    rw [upTo_grow_succ]
    by_cases hlt : path.length < limit
    · have hlevels : min (levels + 1) (limit - path.length) = min levels (limit - (id :: path).length) + 1 := by
        rw [List.length_cons]
        omega
      rw [if_pos hlt, hlevels, grow_succ]
      congr 1
      exact List.map_congr_left fun e _ => ih hlt
    · have hlevels : min (levels + 1) (limit - path.length) = 0 := by omega
      rw [if_neg hlt, hlevels, grow]

/-- No node of a tree is less deep than its root. -/
theorem le_depth_of_mem_toList_grow {v : Visit} (hv : v ∈ (g.grow d levels path id edge).toList) :
    path.length ≤ v.depth := by
  induction levels generalizing path id edge with
  | zero =>
    obtain rfl := mem_toList_grow_zero.1 hv
    exact Nat.le_refl _
  | succ levels ih =>
    rcases mem_toList_grow_succ.1 hv with rfl | ⟨e, -, hv⟩
    · exact Nat.le_refl _
    · exact Nat.le_of_succ_le (ih hv)

/-- The nodes that are left stay in their order. -/
theorem toList_upTo_grow (h : path.length ≤ limit) : ((g.grow d levels path id edge).upTo limit).toList =
    (g.grow d levels path id edge).toList.filter (·.depth ≤ limit) := by
  induction levels generalizing path id edge with
  | zero => simp [grow, CallTree.upTo, CallTree.forestUpTo, CallTree.toList, CallTree.forestToList, visitAt, h]
  | succ levels ih =>
    have hroot : (g.visitAt path id edge).depth ≤ limit := h
    rw [upTo_grow_succ, CallTree.toList, CallTree.toList_eq_cons, visit_grow, descendants_grow_succ,
      List.filter_cons_of_pos (by simpa using hroot), List.filter_flatMap]
    congr 1
    by_cases hlt : path.length < limit
    · rw [if_pos hlt, CallTree.forestToList_eq_flatMap, List.flatMap_map]
      exact List.flatMap_congr fun e _ => ih hlt
    · -- All that is below the root is too deep.
      rw [if_neg hlt, CallTree.forestToList, eq_comm, List.flatMap_eq_nil_iff]
      intro e _
      rw [List.filter_eq_nil_iff]
      intro v hv
      have := le_depth_of_mem_toList_grow hv
      rw [List.length_cons] at this
      simp only [decide_eq_true_eq]
      omega

/-! ## The limit from which on trees stay -/

/-- No node is as deep as the graph has methods. -/
theorem CallsAgree.depth_lt (hg : g.CallsAgree) {start : MethodId} (hstart : start < g.methods.size) :
    ∀ v ∈ (g.grow d levels [] start none).toList, v.depth < g.methods.size := by
  intro v hv
  rw [← CallTree.map_visit_routes] at hv
  obtain ⟨⟨es, s⟩, hs, rfl⟩ := List.mem_map.1 hv
  obtain ⟨hpath, -, -, hdepth, -⟩ := visit_of_mem_routes_root hg hstart hs
  rw [hdepth]
  exact hpath.length_lt hg hstart

/-- A tree is the one that is grown to as many levels as a simple path can have calls, if it has them. -/
theorem CallsAgree.grow_eq (hg : g.CallsAgree) {start : MethodId} (hstart : start < g.methods.size)
    (hlevels : g.methods.size - 1 ≤ levels) :
    g.grow d levels [] start none = g.grow d (g.methods.size - 1) [] start none := by
  have hshallow : ∀ v ∈ (g.grow d levels [] start none).toList, v.depth ≤ g.methods.size - 1 := by
    intro v hv
    have := hg.depth_lt hstart v hv
    omega
  calc g.grow d levels [] start none
      = (g.grow d levels [] start none).upTo (g.methods.size - 1) := (CallTree.upTo_eq_self _ hshallow).symm
    _ = g.grow d (min levels (g.methods.size - 1 - 0)) [] start none := upTo_grow (Nat.zero_le _)
    _ = g.grow d (g.methods.size - 1) [] start none := by rw [Nat.sub_zero, Nat.min_eq_right hlevels]

/-- **A larger limit only extends a tree, and the limit stops mattering.** After any run of changes, and in both
directions: the tree for a limit is the tree for a larger one without the nodes that are too deep, and all other
nodes are there, in the same order. Around each method there is a tree for every limit, no node of it is as deep
as there are methods, and all limits from the number of methods less one on give one tree. -/
theorem tree_limited (changes : List Change) (d : Direction) :
    let g := ({} : CallGraph).after changes
    (∀ (root : Int) (limit limit' : Nat), limit ≤ limit' →
      g.tree? d root limit = (g.tree? d root limit').map (·.upTo limit) ∧
      (g.tree? d root limit).map (·.toList) =
        (g.tree? d root limit').map fun t => t.toList.filter (·.depth ≤ limit)) ∧
    ∀ start : MethodId, start < g.numMethods →
      (∃ full, ∀ limit : Int, (g.numMethods : Int) - 1 ≤ limit → g.tree? d start limit = some full) ∧
      ∀ limit : Int, 0 ≤ limit → ∃ t, g.tree? d start limit = some t ∧ ∀ v ∈ t.toList, v.depth < g.numMethods := by
  intro g
  have hg : g.CallsAgree := (Tracks.empty.after changes).wellFormed.toCallsAgree
  refine ⟨fun root limit limit' hle => ?_, fun start hstart =>
    ⟨⟨g.grow d (g.methods.size - 1) [] start none, fun limit hlimit => ?_⟩, fun limit hlimit =>
      ⟨_, tree?_eq_some hstart hlimit, hg.depth_lt hstart⟩⟩⟩
  · by_cases hroot : root < 0 ∨ (g.methods.size : Int) ≤ root
    · rw [tree?_eq_none (.inr hroot), tree?_eq_none (.inr hroot)]
      exact ⟨rfl, rfl⟩
    · obtain ⟨start, rfl⟩ := Int.eq_ofNat_of_zero_le (show 0 ≤ root by omega)
      have hstart : start < g.methods.size := by omega
      have hgrow : (g.grow d limit' [] start none).upTo limit = g.grow d limit [] start none := by
        rw [upTo_grow (Nat.zero_le _), List.length_nil, Nat.sub_zero, Nat.min_eq_right hle]
      have hlist : (g.grow d limit [] start none).toList =
          (g.grow d limit' [] start none).toList.filter (·.depth ≤ limit) := by
        rw [← hgrow]
        exact toList_upTo_grow (Nat.zero_le limit)
      have htree : ∀ k : Nat, g.tree? d start k = some (g.grow d k [] start none) := fun k =>
        tree?_eq_some hstart (by omega)
      rw [htree, htree]
      exact ⟨congrArg some hgrow.symm, congrArg some hlist⟩
  · have hmethods : 0 < g.numMethods := Nat.zero_lt_of_lt hstart
    have hlevels : g.methods.size - 1 ≤ limit.toNat := by
      show g.numMethods - 1 ≤ limit.toNat
      omega
    rw [tree?_eq_some hstart (by omega), hg.grow_eq hstart hlevels]

/-- Two methods that call each other, the first in two ways and itself too: a limit of 1 is enough, and 0 leaves the
root alone. -/
theorem tree_limited_cycle :
    let changes : List Change := [.addClass "app.Main", .addMethod 0 "run()", .addMethod 0 "stop()",
      .addEdge ⟨"directly calls", 0, 0⟩, .addEdge ⟨"virtually calls", 0, 1⟩,
      .addEdge ⟨"directly calls", 0, 1⟩, .addEdge ⟨"directly calls", 1, 0⟩]
    let g := ({} : CallGraph).after changes
    0 < g.numMethods ∧ (0 : Int) ≤ 1000 ∧ (g.numMethods : Int) - 1 ≤ 1 ∧ (g.numMethods : Int) - 1 ≤ 1000 ∧
    g.tree? .callees (0 : MethodId) (0 : Nat) =
      (g.tree? .callees (0 : MethodId) (1 : Nat)).map (·.upTo 0) ∧
    (g.tree? .callees (0 : MethodId) 1).map (·.toList.map (·.id)) = some [0, 1, 1] ∧
    ∃ full, g.tree? .callees (0 : MethodId) 1 = some full ∧ g.tree? .callees (0 : MethodId) 1000 = some full ∧
      ∀ v ∈ full.toList, v.depth < g.numMethods := by
  intro changes g
  obtain ⟨hextend, hlimit⟩ := tree_limited changes .callees
  have hstart : 0 < g.numMethods := by decide +kernel
  have hone : (g.numMethods : Int) - 1 ≤ 1 := by decide +kernel
  have hmany : (g.numMethods : Int) - 1 ≤ 1000 := by decide +kernel
  obtain ⟨⟨full, hfull⟩, hdepth⟩ := hlimit 0 hstart
  obtain ⟨t, ht, hlt⟩ := hdepth 1000 (by decide)
  obtain rfl : full = t := Option.some.inj ((hfull 1000 hmany).symm.trans ht)
  exact ⟨hstart, by decide, hone, hmany, (hextend 0 0 1 (by decide)).1, by decide +kernel, full, hfull 1 hone,
    ht, hlt⟩

end CallGraph

end CallAtlas.Graph
