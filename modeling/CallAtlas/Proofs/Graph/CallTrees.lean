import CallAtlas.Proofs.Graph.Filling
import CallAtlas.Proofs.Graph.Runs
import CallAtlas.Proofs.Graph.Walks

/-!
# The nodes of a call tree

Each node of a call tree stands at the end of a way from the root, which is the list of the calls
followed; two nodes never have one way, and the ways are the simple paths that are not too long.

* `CallTree.routes`: the subtrees, each with the way to it.
* `exists_grow_of_mem_routes`: each subtree is grown like the tree itself, at the end of its way.
* `exists_mem_routes_grow_iff`, `nodup_routes_grow`: the ways to the nodes of a tree.
* `tree_simple_paths`: the nodes of the tree around a method, in full.
* `callees_callers_dual`: a method stands below another in the tree of its calls where that one stands in
  the tree of the calls that lead to it, with the way read backwards.
-/

namespace CallAtlas.Graph

open Text (leKey)

namespace CallTree

mutual

/-- The subtrees, each before those below it, with the calls on the way from the root to it. -/
def routes : CallTree → List (List CallEdge × CallTree)
  | node v cs => ([], node v cs) :: forestRoutes cs

/-- The subtrees of the trees, with the calls on the way from above the trees. -/
def forestRoutes : List CallTree → List (List CallEdge × CallTree)
  | [] => []
  | t :: ts => t.routes.map (fun p => (t.visit.edge.toList ++ p.1, p.2)) ++ forestRoutes ts

end

mutual

/-- There is one way for each node. -/
theorem map_visit_routes : ∀ t : CallTree, t.routes.map (·.2.visit) = t.toList
  | node v cs => by
    rw [routes, List.map_cons, map_visit_forestRoutes cs, toList]
    rfl

theorem map_visit_forestRoutes : ∀ ts : List CallTree,
    (forestRoutes ts).map (·.2.visit) = forestToList ts
  | [] => rfl
  | t :: ts => by
    rw [forestRoutes, List.map_append, List.map_map, map_visit_forestRoutes ts, forestToList,
      ← map_visit_routes t]
    rfl

end

theorem forestRoutes_eq_flatMap (ts : List CallTree) : forestRoutes ts =
    ts.flatMap fun t => t.routes.map fun p => (t.visit.edge.toList ++ p.1, p.2) := by
  induction ts with
  | nil => rfl
  | cons t ts ih => rw [forestRoutes, ih, List.flatMap_cons]

theorem forestToList_eq_flatMap (ts : List CallTree) : forestToList ts = ts.flatMap toList := by
  induction ts with
  | nil => rfl
  | cons t ts ih => rw [forestToList, ih, List.flatMap_cons]

theorem toList_eq_cons (t : CallTree) : t.toList = t.visit :: t.descendants := by
  cases t
  rfl

/-- The ways to the nodes of a method. -/
def waysTo (t : CallTree) (j : MethodId) : List (List CallEdge) :=
  (t.routes.filter fun p => p.2.visit.id = j).map (·.1)

theorem mem_waysTo_iff {t : CallTree} {j : MethodId} {es : List CallEdge} :
    es ∈ t.waysTo j ↔ ∃ s, (es, s) ∈ t.routes ∧ s.visit.id = j := by
  simp [waysTo]

end CallTree

/-- What the children of a node are ordered by: the type of the call, and the name of the method. -/
def Visit.key (v : Visit) : List String :=
  [(v.edge.map (·.callType)).getD "", v.name.qualified]

namespace CallGraph

variable {g : CallGraph} {d : Direction} {path : List MethodId} {id i j : MethodId}
  {edge : Option CallEdge} {e : CallEdge} {es : List CallEdge} {levels : Nat} {s : CallTree}

/-! ## Branches -/

/-- The calls that a tree follows from a method that `path` leads to. -/
def branches (g : CallGraph) (d : Direction) (path : List MethodId) (id : MethodId) : List CallEdge :=
  (g.steps d id).filter fun e => d.target e ∉ id :: path

theorem mem_steps_iff : e ∈ g.steps d i ↔ g.Step d i e := by
  unfold steps Step
  cases hm : g.methods[i]? with
  | none => simp
  | some m => simp

theorem mem_branches_iff : e ∈ g.branches d path id ↔ g.Step d id e ∧ d.target e ∉ id :: path := by
  rw [branches, List.mem_filter, mem_steps_iff, decide_eq_true_iff]

theorem CallsAgree.hasEdge_of_mem_branches (h : g.CallsAgree) (he : e ∈ g.branches d path id) :
    g.HasEdge e :=
  (h.step_iff.1 (mem_branches_iff.1 he).1).2

theorem CallsAgree.nodup_branches (h : g.CallsAgree) : (g.branches d path id).Nodup := by
  refine List.Nodup.filter _ ?_
  unfold steps
  cases hm : g.methods[id]? with
  | none => exact List.nodup_nil
  | some m => exact (Text.ascending_perm ..).nodup_iff.2 (h.edges_nodup hm)

theorem pairwise_branches : (g.branches d path id).Pairwise fun a b =>
    leKey (g.edgeKey d a) (g.edgeKey d b) = true := by
  refine List.Pairwise.filter _ ?_
  unfold steps
  cases g.methods[id]? with
  | none => exact .nil
  | some m => exact Text.pairwise_ascending ..

/-! ## Growing -/

theorem grow_succ (levels : Nat) : g.grow d (levels + 1) path id edge =
    .node (g.visitAt path id edge)
      ((g.branches d path id).map fun e => g.grow d levels (id :: path) (d.target e) (some e)) :=
  rfl

@[simp] theorem visit_grow (levels : Nat) :
    (g.grow d levels path id edge).visit = g.visitAt path id edge := by
  cases levels <;> rfl

theorem descendants_grow_succ (levels : Nat) : (g.grow d (levels + 1) path id edge).descendants =
    (g.branches d path id).flatMap fun e => (g.grow d levels (id :: path) (d.target e) (some e)).toList := by
  rw [grow_succ, CallTree.descendants, CallTree.children, CallTree.forestToList_eq_flatMap,
    List.flatMap_map]

theorem descendants_grow_zero : (g.grow d 0 path id edge).descendants = [] :=
  rfl

theorem mem_toList_grow_zero {v : Visit} :
    v ∈ (g.grow d 0 path id edge).toList ↔ v = g.visitAt path id edge := by
  rw [CallTree.toList_eq_cons, visit_grow, descendants_grow_zero, List.mem_singleton]

/-- A node of a tree is its root, or is of a tree that a branch leads to. -/
theorem mem_toList_grow_succ {v : Visit} : v ∈ (g.grow d (levels + 1) path id edge).toList ↔
    v = g.visitAt path id edge ∨
      ∃ e ∈ g.branches d path id, v ∈ (g.grow d levels (id :: path) (d.target e) (some e)).toList := by
  rw [CallTree.toList_eq_cons, visit_grow, descendants_grow_succ, List.mem_cons, List.mem_flatMap]

/-- The nodes below the root have the calls to them from the graph. -/
theorem CallsAgree.hasEdge_of_mem_descendants (hg : g.CallsAgree) {v : Visit}
    (hv : v ∈ (g.grow d levels path id edge).descendants) : ∃ e, v.edge = some e ∧ g.HasEdge e := by
  induction levels generalizing path id edge with
  | zero => simp [grow, CallTree.descendants, CallTree.children, CallTree.forestToList] at hv
  | succ levels ih =>
    rw [descendants_grow_succ, List.mem_flatMap] at hv
    obtain ⟨e, he, hv⟩ := hv
    rw [CallTree.toList_eq_cons, visit_grow, List.mem_cons] at hv
    rcases hv with rfl | hv
    · exact ⟨e, rfl, hg.hasEdge_of_mem_branches he⟩
    · exact ih hv

/-- The calls to the nodes of a tree around a method are calls of the graph. -/
theorem CallsAgree.hasEdge_of_mem_toList (hg : g.CallsAgree) {v : Visit}
    (hv : v ∈ (g.grow d levels path id none).toList) (he : v.edge = some e) : g.HasEdge e := by
  rw [CallTree.toList_eq_cons, visit_grow, List.mem_cons] at hv
  rcases hv with rfl | hv
  · cases he
  · obtain ⟨e', he', hedge⟩ := hg.hasEdge_of_mem_descendants hv
    rw [he] at he'
    cases he'
    exact hedge

theorem mem_routes_grow_zero :
    (es, s) ∈ (g.grow d 0 path id edge).routes ↔ es = [] ∧ s = g.grow d 0 path id edge := by
  rw [grow, CallTree.routes, CallTree.forestRoutes, List.mem_singleton, Prod.mk.injEq]

theorem routes_grow_succ (levels : Nat) : (g.grow d (levels + 1) path id edge).routes =
    ([], g.grow d (levels + 1) path id edge) :: (g.branches d path id).flatMap fun e =>
      (g.grow d levels (id :: path) (d.target e) (some e)).routes.map fun p => (e :: p.1, p.2) := by
  rw [grow_succ, CallTree.routes, CallTree.forestRoutes_eq_flatMap, List.flatMap_map]
  simp only [visit_grow, visitAt, Option.toList_some, List.singleton_append]

/-- The way to a subtree is empty, or starts with a call from the root. -/
theorem mem_routes_grow_succ : (es, s) ∈ (g.grow d (levels + 1) path id edge).routes ↔
    (es = [] ∧ s = g.grow d (levels + 1) path id edge) ∨
    ∃ e ∈ g.branches d path id, ∃ fs, es = e :: fs ∧
      (fs, s) ∈ (g.grow d levels (id :: path) (d.target e) (some e)).routes := by
  rw [routes_grow_succ, List.mem_cons, Prod.mk.injEq, List.mem_flatMap]
  refine or_congr_right (exists_congr fun e => and_congr_right fun _ => ?_)
  rw [List.mem_map]
  constructor
  · rintro ⟨⟨fs, s'⟩, hmem, heq⟩
    cases heq
    exact ⟨fs, rfl, hmem⟩
  · rintro ⟨fs, rfl, hmem⟩
    exact ⟨(fs, s), hmem, rfl⟩

/-- A subtree is grown at the end of its way, by the last call of the way, with as many levels less as the
way has calls. -/
theorem exists_grow_of_mem_routes (h : (es, s) ∈ (g.grow d levels path id edge).routes) :
    ∃ path' j, g.Walk d id es j ∧ path'.length = path.length + es.length ∧
      s = g.grow d (levels - es.length) path' j (es.getLast?.or edge) := by
  induction levels generalizing path id edge es with
  | zero =>
    obtain ⟨rfl, rfl⟩ := mem_routes_grow_zero.1 h
    exact ⟨path, id, .nil id, rfl, rfl⟩
  | succ levels ih =>
    rcases mem_routes_grow_succ.1 h with ⟨rfl, rfl⟩ | ⟨e, he, fs, rfl, hmem⟩
    · exact ⟨path, id, .nil id, rfl, rfl⟩
    · obtain ⟨path', j, hwalk, hlen, hs⟩ := ih hmem
      refine ⟨path', j, .cons (mem_branches_iff.1 he).1 hwalk, ?_, ?_⟩
      · rw [hlen, List.length_cons, List.length_cons]
        omega
      · have hlast : fs.getLast?.or (some e) = (e :: fs).getLast?.or edge := by
          cases fs <;> simp [List.getLast?_eq_some_getLast]
        rw [hs, hlast, List.length_cons, Nat.add_sub_add_right]

/-- The ways of a tree to the nodes of a method are the simple paths to it that are not too long and keep
off the path to the root. -/
theorem exists_mem_routes_grow_iff :
    (∃ s, (es, s) ∈ (g.grow d levels path id edge).routes ∧ s.visit.id = j) ↔
      es.length ≤ levels ∧ g.SimplePath d id es j ∧ ∀ i ∈ es.map d.target, i ∉ path := by
  induction levels generalizing path id edge es with
  | zero =>
    simp only [mem_routes_grow_zero, Nat.le_zero, List.length_eq_zero_iff]
    constructor
    · rintro ⟨s, ⟨rfl, rfl⟩, rfl⟩
      exact ⟨rfl, .nil id, by simp⟩
    · rintro ⟨rfl, hpath, -⟩
      exact ⟨_, ⟨rfl, rfl⟩, (Walk.nil id).end_unique hpath.walk⟩
  | succ levels ih =>
    simp only [mem_routes_grow_succ]
    constructor
    · rintro ⟨s, ⟨rfl, rfl⟩ | ⟨e, he, fs, rfl, hmem⟩, rfl⟩
      · rw [visit_grow]
        exact ⟨Nat.zero_le _, .nil id, by simp⟩
      · obtain ⟨hlen, hpath, hoff⟩ := ih.1 ⟨s, hmem, rfl⟩
        obtain ⟨hstep, htarget⟩ := mem_branches_iff.1 he
        have hall : ∀ i ∈ (e :: fs).map d.target, i ∉ id :: path := by
          intro i hi
          rcases List.mem_cons.1 hi with rfl | hi
          · exact htarget
          · exact hoff i hi
        refine ⟨Nat.succ_le_succ hlen, simplePath_cons_iff.2 ⟨hstep, fun hid => ?_, hpath⟩,
          fun i hi hp => hall i hi (List.mem_cons_of_mem _ hp)⟩
        exact hall id hid List.mem_cons_self
    · rintro ⟨hlen, hpath, hoff⟩
      cases es with
      | nil =>
        refine ⟨_, .inl ⟨rfl, rfl⟩, ?_⟩
        rw [visit_grow]
        exact (Walk.nil id).end_unique hpath.walk
      | cons e fs =>
        obtain ⟨hstep, hid, hrest⟩ := simplePath_cons_iff.1 hpath
        have hall : ∀ i ∈ (e :: fs).map d.target, i ∉ id :: path := by
          intro i hi hmem
          rcases List.mem_cons.1 hmem with rfl | hmem
          · exact hid hi
          · exact hoff i hi hmem
        have hlater : ∀ i ∈ fs.map d.target, i ∉ id :: path := fun i hi =>
          hall i (List.mem_cons_of_mem _ hi)
        obtain ⟨s, hs, hj⟩ := ih.2 ⟨Nat.le_of_succ_le_succ hlen, hrest, hlater⟩
        exact ⟨s, .inr ⟨e, mem_branches_iff.2 ⟨hstep, hall _ List.mem_cons_self⟩, fs, rfl, hs⟩, hj⟩

/-- No two nodes have one way. -/
theorem CallsAgree.nodup_routes_grow (hg : g.CallsAgree) :
    ((g.grow d levels path id edge).routes.map (·.1)).Nodup := by
  induction levels generalizing path id edge with
  | zero => exact List.nodup_singleton _
  | succ levels ih =>
    have hways : (g.grow d (levels + 1) path id edge).routes.map (·.1) =
        [] :: (g.branches d path id).flatMap fun e =>
          ((g.grow d levels (id :: path) (d.target e) (some e)).routes.map (·.1)).map (List.cons e) := by
      rw [routes_grow_succ, List.map_cons, List.map_flatMap]
      simp only [List.map_map, Function.comp_def]
    rw [hways, List.nodup_cons, List.nodup_flatMap]
    refine ⟨by simp, fun e _ => ih.map List.cons_injective, hg.nodup_branches.imp fun hne es h1 h2 => ?_⟩
    -- Ways through two calls differ in their first call.
    obtain ⟨fs, -, rfl⟩ := List.mem_map.1 h1
    obtain ⟨fs', -, heq⟩ := List.mem_map.1 h2
    exact hne (List.cons.inj heq).1.symm

/-! ## Nodes -/

theorem nameOf?_eq_some_visitAt (hid : id < g.methods.size) :
    g.nameOf? id = some (g.visitAt path id edge).name := by
  obtain ⟨name, hname⟩ := exists_nameOf?_eq_some hid
  rw [visitAt, hname]
  rfl

theorem key_visitAt (he : d.target e < g.methods.size) :
    (g.visitAt path (d.target e) (some e)).key = g.edgeKey d e := by
  obtain ⟨name, hname⟩ := exists_nameOf?_eq_some he
  simp [visitAt, Visit.key, edgeKey, hname]

/-- The children of a node are in order. -/
theorem CallsAgree.pairwise_children_grow (hg : g.CallsAgree) :
    (g.grow d levels path id edge).children.Pairwise fun a b =>
      leKey a.visit.key b.visit.key = true := by
  cases levels with
  | zero => exact .nil
  | succ levels =>
    have hkey : ∀ x ∈ g.branches d path id,
        (g.grow d levels (id :: path) (d.target x) (some x)).visit.key = g.edgeKey d x := fun x hx => by
      rw [visit_grow, key_visitAt (hg.target_lt (mem_branches_iff.1 hx).1)]
    rw [grow_succ, CallTree.children, List.pairwise_map]
    refine pairwise_branches.imp_of_mem fun {a b} ha hb hab => ?_
    rwa [hkey a ha, hkey b hb]

theorem tree?_eq_some {start : MethodId} {maxDepth : Int} (hstart : start < g.methods.size)
    (hdepth : 0 ≤ maxDepth) :
    g.tree? d start maxDepth = some (g.grow d maxDepth.toNat [] start none) := by
  have hcontains : g.contains start = true := by simp [contains, hstart]
  rw [tree?_eq_grow, hcontains, decide_eq_true hdepth]
  rfl

theorem tree?_eq_none {root maxDepth : Int}
    (h : maxDepth < 0 ∨ root < 0 ∨ (g.methods.size : Int) ≤ root) : g.tree? d root maxDepth = none := by
  rw [tree?_eq_grow, if_neg]
  simp only [contains, Bool.and_eq_true, decide_eq_true_eq]
  omega

/-- The ways of the tree around a method to the nodes of a method are the simple paths to it within the
limit. -/
theorem mem_waysTo_root_iff {start : MethodId} {maxDepth : Int} (hdepth : 0 ≤ maxDepth) :
    es ∈ (g.grow d maxDepth.toNat [] start none).waysTo j ↔
      (es.length : Int) ≤ maxDepth ∧ g.SimplePath d start es j := by
  rw [CallTree.mem_waysTo_iff, exists_mem_routes_grow_iff]
  simp only [List.not_mem_nil, not_false_eq_true, implies_true, and_true]
  rw [← Int.toNat_of_nonneg hdepth, Int.ofNat_le, Int.toNat_natCast]

/-- A node of the tree around a method has the last call of its way, and the length of its way as its
depth. -/
theorem visit_of_mem_routes_root {start : MethodId} (hg : g.CallsAgree) (hstart : start < g.methods.size)
    (h : (es, s) ∈ (g.grow d levels [] start none).routes) :
    g.SimplePath d start es s.visit.id ∧ g.nameOf? s.visit.id = some s.visit.name ∧
      s.visit.edge = es.getLast? ∧ s.visit.depth = es.length ∧
      s.children.Pairwise fun a b => leKey a.visit.key b.visit.key = true := by
  have hpath := (exists_mem_routes_grow_iff.1 ⟨s, h, rfl⟩).2.1
  have hlt := hpath.walk.visited_lt hg hstart _ hpath.walk.end_mem_visited
  obtain ⟨path', j, -, hlen, rfl⟩ := exists_grow_of_mem_routes h
  refine ⟨hpath, ?_, ?_, ?_, hg.pairwise_children_grow⟩
  · rw [visit_grow] at hlt ⊢
    exact nameOf?_eq_some_visitAt hlt
  · rw [visit_grow, visitAt, Option.or_none]
  · rw [visit_grow, visitAt, hlen, List.length_nil, Nat.zero_add]

/-- The depths of the nodes of a method are the lengths of the ways to them. -/
theorem map_depth_eq_map_length {start : MethodId} (hg : g.CallsAgree) (hstart : start < g.methods.size) :
    let t := g.grow d levels [] start none
    (t.toList.filter (·.id = j)).map (·.depth) = (t.waysTo j).map List.length := by
  intro t
  rw [← t.map_visit_routes, CallTree.waysTo, List.filter_map, List.map_map, List.map_map]
  refine List.map_congr_left fun p hp => ?_
  exact (visit_of_mem_routes_root hg hstart (List.mem_of_mem_filter hp)).2.2.2.1

theorem CallsAgree.nodup_waysTo (hg : g.CallsAgree) :
    ((g.grow d levels path id edge).waysTo j).Nodup :=
  hg.nodup_routes_grow.sublist (List.filter_sublist.map _)

/-! ## Trees around methods -/

/-- **The tree around a method has one node for each simple path from it.** After any run of changes, and
in both directions: of a method and a limit that is not negative there is a tree. The ways to its nodes
are, once each, the simple paths from the method that are no longer than the limit; a node is about the
method at the end of its way, and has the last call of the way and the length of the way as its depth; its
children are in order. For a negative limit, or if there is no such method, there is no tree. -/
theorem tree_simple_paths (changes : List Change) (d : Direction) (maxDepth : Int) :
    let g := ({} : CallGraph).after changes
    (∀ root : Int, maxDepth < 0 ∨ root < 0 ∨ g.numMethods ≤ root → g.tree? d root maxDepth = none) ∧
    ∀ start : MethodId, start < g.numMethods → 0 ≤ maxDepth →
      ∃ t, g.tree? d start maxDepth = some t ∧
        t.routes.map (·.2.visit) = t.toList ∧
        (t.routes.map (·.1)).Nodup ∧
        (∀ es, es ∈ t.routes.map (·.1) ↔
          (es.length : Int) ≤ maxDepth ∧ ∃ j, g.SimplePath d start es j) ∧
        ∀ es s, (es, s) ∈ t.routes →
          g.SimplePath d start es s.visit.id ∧ g.nameOf? s.visit.id = some s.visit.name ∧
          s.visit.edge = es.getLast? ∧ s.visit.depth = es.length ∧
          s.children.Pairwise fun a b => leKey a.visit.key b.visit.key = true := by
  intro g
  have hg : g.CallsAgree := (Tracks.empty.after changes).wellFormed.toCallsAgree
  refine ⟨fun root h => tree?_eq_none h, fun start hstart hdepth => ?_⟩
  refine ⟨_, tree?_eq_some hstart hdepth, CallTree.map_visit_routes _, hg.nodup_routes_grow,
    fun es => ?_, fun es s h => visit_of_mem_routes_root hg hstart h⟩
  have hways : ∀ j, (∃ s, (es, s) ∈ (g.grow d maxDepth.toNat [] start none).routes ∧ s.visit.id = j) ↔
      (es.length : Int) ≤ maxDepth ∧ g.SimplePath d start es j := fun j => by
    rw [← CallTree.mem_waysTo_iff, mem_waysTo_root_iff hdepth]
  simp only [← exists_and_left, ← hways, List.mem_map]
  constructor
  · rintro ⟨⟨es, s⟩, h, rfl⟩
    exact ⟨_, s, h, rfl⟩
  · rintro ⟨j, s, h, -⟩
    exact ⟨(es, s), h, rfl⟩

/-- A method that calls itself, and another one in two ways that calls it back: the tree around it has
the two calls to the other method, and ends there. -/
theorem tree_simple_paths_cycle :
    let changes : List Change := [.addClass "app.Main", .addMethod 0 "run()", .addMethod 0 "stop()",
      .addEdge ⟨"directly calls", 0, 0⟩, .addEdge ⟨"virtually calls", 0, 1⟩,
      .addEdge ⟨"directly calls", 0, 1⟩, .addEdge ⟨"directly calls", 1, 0⟩]
    let g := ({} : CallGraph).after changes
    0 < g.numMethods ∧ (0 : Int) ≤ 5 ∧
    (g.tree? .callees (0 : MethodId) 5).map (·.toList.map (·.id)) = some [0, 1, 1] ∧
    ∃ t, g.tree? .callees (0 : MethodId) 5 = some t ∧ (t.routes.map (·.1)).Nodup ∧
      ∀ es, es ∈ t.routes.map (·.1) ↔ (es.length : Int) ≤ 5 ∧ ∃ j, g.SimplePath .callees 0 es j := by
  intro changes g
  have hstart : 0 < g.numMethods := by decide +kernel
  obtain ⟨t, ht, -, hnodup, hways, -⟩ :=
    (tree_simple_paths changes .callees 5).2 0 hstart (by decide)
  exact ⟨hstart, by decide, by decide +kernel, t, ht, hnodup, hways⟩

/-- **Calls made and calls received are dual.** After any run of changes: the ways to `b` in the tree of
what `a` calls are, read backwards, the ways to `a` in the tree of what calls `b`. So `b` stands in the
one tree as often as `a` in the other, and at the same depths. -/
theorem callees_callers_dual (changes : List Change) (a b : MethodId) (maxDepth : Int)
    (ha : a < (({} : CallGraph).after changes).numMethods)
    (hb : b < (({} : CallGraph).after changes).numMethods) (hdepth : 0 ≤ maxDepth) :
    let g := ({} : CallGraph).after changes
    ∃ t t', g.tree? .callees a maxDepth = some t ∧ g.tree? .callers b maxDepth = some t' ∧
      (∀ es, es ∈ t.waysTo b ↔ es.reverse ∈ t'.waysTo a) ∧
      ((t.toList.filter (·.id = b)).map (·.depth)).Perm ((t'.toList.filter (·.id = a)).map (·.depth)) := by
  intro g
  have hg : g.CallsAgree := (Tracks.empty.after changes).wellFormed.toCallsAgree
  have hdual : ∀ es, es ∈ (g.grow .callees maxDepth.toNat [] a none).waysTo b ↔
      es.reverse ∈ (g.grow .callers maxDepth.toNat [] b none).waysTo a := fun es => by
    rw [mem_waysTo_root_iff hdepth, mem_waysTo_root_iff hdepth, List.length_reverse]
    exact and_congr_right fun _ => (hg.simplePath_reverse_iff (d := .callees)).symm
  refine ⟨_, _, tree?_eq_some ha hdepth, tree?_eq_some hb hdepth, hdual, ?_⟩
  rw [map_depth_eq_map_length hg ha, map_depth_eq_map_length hg hb]
  have hperm : ((g.grow .callees maxDepth.toNat [] a none).waysTo b).Perm
      (((g.grow .callers maxDepth.toNat [] b none).waysTo a).map List.reverse) := by
    rw [List.perm_ext_iff_of_nodup hg.nodup_waysTo
      (hg.nodup_waysTo.map List.reverse_injective)]
    intro es
    rw [hdual, ← List.mem_map_of_injective List.reverse_injective, List.reverse_reverse]
  have hlen : (List.length ∘ List.reverse : List CallEdge → Nat) = List.length :=
    funext fun _ => List.length_reverse
  have := hperm.map List.length
  rwa [List.map_map, hlen] at this

/-- Two methods that call each other, the first in two ways, and once more by way of a third method. -/
theorem callees_callers_dual_cycle :
    let changes : List Change := [.addClass "app.Main", .addMethod 0 "run()", .addMethod 0 "stop()",
      .addMethod 0 "wait()", .addEdge ⟨"directly calls", 0, 1⟩, .addEdge ⟨"virtually calls", 0, 1⟩,
      .addEdge ⟨"directly calls", 0, 2⟩, .addEdge ⟨"wakes", 2, 1⟩, .addEdge ⟨"directly calls", 1, 0⟩]
    let g := ({} : CallGraph).after changes
    let far : List CallEdge := [⟨"directly calls", 0, 2⟩, ⟨"wakes", 2, 1⟩]
    0 < g.numMethods ∧ 1 < g.numMethods ∧ (0 : Int) ≤ 5 ∧
    ∃ t t', g.tree? .callees (0 : MethodId) 5 = some t ∧ g.tree? .callers (1 : MethodId) 5 = some t' ∧
      far ∈ t.waysTo 1 ∧ far.reverse ∈ t'.waysTo 0 ∧
      (t.toList.filter (·.id = 1)).map (·.depth) = [1, 2, 1] ∧
      (t'.toList.filter (·.id = 0)).map (·.depth) = [1, 1, 2] ∧
      (∀ es, es ∈ t.waysTo 1 ↔ es.reverse ∈ t'.waysTo 0) ∧
      ((t.toList.filter (·.id = 1)).map (·.depth)).Perm ((t'.toList.filter (·.id = 0)).map (·.depth)) := by
  intro changes g far
  have hfar : (g.tree? .callees (0 : MethodId) 5).any (fun t => decide (far ∈ t.waysTo 1)) = true := by
    decide +kernel
  have hcallees : (g.tree? .callees (0 : MethodId) 5).map (fun t => (t.toList.filter (·.id = 1)).map (·.depth)) =
      some [1, 2, 1] := by decide +kernel
  have hcallers : (g.tree? .callers (1 : MethodId) 5).map (fun t => (t.toList.filter (·.id = 0)).map (·.depth)) =
      some [1, 1, 2] := by decide +kernel
  obtain ⟨t, t', ht, ht', hways, hdepths⟩ :=
    callees_callers_dual changes 0 1 5 (by decide +kernel) (by decide +kernel) (by decide)
  rw [ht] at hfar hcallees
  rw [ht'] at hcallers
  have hway : far ∈ t.waysTo 1 := of_decide_eq_true hfar
  exact ⟨by decide +kernel, by decide +kernel, by decide, t, t', ht, ht', hway, (hways far).1 hway,
    Option.some.inj hcallees, Option.some.inj hcallers, hways, hdepths⟩

end CallGraph

end CallAtlas.Graph
