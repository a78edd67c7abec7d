import CallAtlas.Proofs.Tools.Answers

/-!
# Around a method

The page of a method lists its calls, and the trees around it start with the methods at the other end of them.

* `WellFormed.branches_perm`: the calls that a tree follows from its root are those listed, but for calls of the
  method to itself; `WellFormed.name_ne_of_mem_descendants`: a tree does not come back to its root.
* `Json.ref?`, `Json.refsAt?`: the calls that an answer tells.
* `Tools.IsAround`: the children in a tree are the calls listed. `neighbours_agree`: they are on both sides.
-/

namespace CallAtlas

namespace Graph

/-- The type of a call, as it is phrased at the end that the direction leads to. -/
def Direction.phrase : Direction → String → String
  | .callees, callType => callType
  | .callers, callType => invertCallType callType

namespace CallGraph

variable {g : CallGraph} {d : Direction} {path : List MethodId} {id i : MethodId} {edge : Option CallEdge}
  {levels : Nat} {m : MethodNode} {v : Visit}

/-- The calls that a tree follows from its root are those listed that do not lead back to it. -/
theorem WellFormed.branches_perm (h : g.WellFormed) (hm : g.methods[i]? = some m) (phrase : String → String) :
    ((g.branches d [] i).map fun e => (⟨phrase e.callType, (g.nameOf? (d.target e)).getD default⟩ : CallRef)).Perm
      ((g.refs d phrase m).filter (·.method ≠ m.name)) := by
  have hname : g.nameOf? i = some m.name := nameOf?_of_getElem? hm
  have hsteps : (g.steps d i).Perm (d.edges m) := by
    rw [steps, hm]
    exact Text.ascending_perm _ _
  refine ((hsteps.filter _).map _).trans (.trans ?_ ((h.refs_perm hm).filter _).symm)
  rw [List.filter_map]
  refine .of_eq (congrArg _ (List.filter_congr fun e he => ?_))
  obtain ⟨name, htarget⟩ := exists_nameOf?_eq_some (h.target_lt ⟨m, hm, he⟩)
  -- No other method has the name of this one.
  have hback : d.target e = i ↔ name = m.name := by
    constructor
    · intro heq
      rw [heq, hname] at htarget
      exact (Option.some.inj htarget).symm
    · rintro rfl
      exact h.nameOf?_injective htarget hname
  simp [htarget, hback]

/-- The nodes of a tree keep off the path to its root. -/
theorem id_notMem_of_mem_toList_grow (hid : id ∉ path) (hv : v ∈ (g.grow d levels path id edge).toList) :
    v.id ∉ path := by
  induction levels generalizing path id edge with
  | zero =>
    obtain rfl := mem_toList_grow_zero.1 hv
    exact hid
  | succ levels ih =>
    rcases mem_toList_grow_succ.1 hv with rfl | ⟨e, he, hv⟩
    · exact hid
    · exact fun hmem => ih (mem_branches_iff.1 he).2 hv (List.mem_cons_of_mem _ hmem)

/-- No node below the root of a tree has the name of the root. -/
theorem WellFormed.name_ne_of_mem_descendants (h : g.WellFormed) (hm : g.methods[i]? = some m)
    (hv : v ∈ (g.grow d levels [] i none).descendants) : v.name ≠ m.name := by
  have hlt : i < g.methods.size := (Array.getElem?_eq_some_iff.1 hm).1
  have hnode : v ∈ (g.grow d levels [] i none).toList := by
    rw [CallTree.toList_eq_cons]
    exact List.mem_cons_of_mem _ hv
  rw [← CallTree.map_visit_routes] at hnode
  obtain ⟨⟨es, s⟩, hs, rfl⟩ := List.mem_map.1 hnode
  have hname := (visit_of_mem_routes_root h.toCallsAgree hlt hs).2.1
  cases levels with
  | zero => cases hv
  | succ levels =>
    rw [descendants_grow_succ, List.mem_flatMap] at hv
    obtain ⟨e, he, hv⟩ := hv
    have hoff := id_notMem_of_mem_toList_grow (mem_branches_iff.1 he).2 hv
    intro heq
    rw [heq] at hname
    have hroot := h.nameOf?_injective hname (nameOf?_of_getElem? hm)
    exact hoff (by rw [hroot]; exact List.mem_cons_self)

end CallGraph

end Graph

/-! ## Calls in answers -/

namespace Json

/-- The call that the value tells, if it has the members of one. -/
def ref? (v : Json) : Option Graph.CallRef :=
  match v.textAt? "call_type", v.methodName? with
  | some callType, some m => some ⟨callType, m⟩
  | _, _ => none

/-- The calls that the items of that name tell, if each of them tells one. -/
def refsAt? (name : String) (v : Json) : Option (List Graph.CallRef) :=
  (v.itemsAt name).mapM ref?

theorem mapM_ref?_map {α : Type} {encode : α → Json} {ref : α → Graph.CallRef}
    (h : ∀ a, (encode a).ref? = some (ref a)) (xs : List α) :
    (xs.map encode).mapM ref? = some (xs.map ref) := by
  induction xs with
  | nil => rfl
  | cons a xs ih => simp [h, ih]

end Json

namespace Browse

open CallAtlas.Graph

theorem ref?_encodeRef (r : CallRef) : (encodeRef r).ref? = some r :=
  rfl

theorem refsAt?_encodeMethod (info : MethodInfo) :
    (encodeMethod info).refsAt? "forward" = some info.forward ∧
      (encodeMethod info).refsAt? "reverse" = some info.reverse := by
  have hrefs : ∀ refs : List CallRef, (refs.map encodeRef).mapM Json.ref? = some refs := fun refs => by
    rw [Json.mapM_ref?_map ref?_encodeRef, List.map_id']
  exact ⟨hrefs info.forward, hrefs info.reverse⟩

end Browse

namespace Tools

open CallAtlas.Graph Browse

theorem encodeTrees_eq_map (inverted : Bool) (ts : List CallTree) :
    encodeTrees inverted ts = ts.map (encodeTree inverted) := by
  induction ts with
  | nil => rfl
  | cons t ts ih => rw [encodeTrees, ih, List.map_cons]

theorem itemsAt_encodeTree (inverted : Bool) (t : CallTree) :
    (encodeTree inverted t).itemsAt "children" = t.children.map (encodeTree inverted) := by
  cases t
  exact encodeTrees_eq_map inverted _

/-- A tree below another one tells the call to its root. -/
theorem ref?_encodeTree (d : Direction) {t : CallTree} {e : CallEdge} (he : t.visit.edge = some e) :
    (encodeTree (d == .callers) t).ref? = some ⟨d.phrase e.callType, t.visit.name⟩ := by
  obtain ⟨v, cs⟩ := t
  obtain ⟨id, name, edge, depth⟩ := v
  cases he
  cases d <;> rfl

theorem names_encodeTree (inverted : Bool) (t : CallTree) :
    (encodeTree inverted t).names = t.toList.map (·.name) := by
  have hlisted : (encodeTree inverted t).listedNames = [] := by
    cases t
    rfl
  rw [Json.names, hlisted, partNames_encodeTree, List.append_nil]

/-- The trees below the root of a tree tell the calls that it follows. -/
theorem refsAt?_encodeTree_grow (g : CallGraph) (d : Direction) (levels : Nat) (path : List MethodId) (i : MethodId)
    (edge : Option CallEdge) :
    (encodeTree (d == .callers) (g.grow d (levels + 1) path i edge)).refsAt? "children" =
      some ((g.branches d path i).map fun e =>
        ⟨d.phrase e.callType, (g.nameOf? (d.target e)).getD default⟩) := by
  rw [Json.refsAt?, itemsAt_encodeTree, CallGraph.grow_succ, CallTree.children, List.map_map]
  refine Json.mapM_ref?_map (fun e => ?_) _
  have hvisit : (g.grow d levels (i :: path) (d.target e) (some e)).visit =
      g.visitAt (i :: path) (d.target e) (some e) := CallGraph.visit_grow levels
  have hedge : (g.grow d levels (i :: path) (d.target e) (some e)).visit.edge = some e := by rw [hvisit]; rfl
  rw [Function.comp_apply, ref?_encodeTree d hedge, hvisit]
  rfl

/-- The tree on that side of the answer starts with the method, its children are the calls listed that are not to
the method itself, as many times each, and the method is named nowhere below the root. -/
def IsAround (n : MethodName) (trace : Json) (side : String) (listed : List CallRef) : Prop :=
  ∃ tree children, trace.member? side = some tree ∧ tree.methodName? = some n ∧
    tree.refsAt? "children" = some children ∧ children.Perm (listed.filter (·.method ≠ n)) ∧
    ∀ child ∈ tree.itemsAt "children", n ∉ child.names

theorem isAround_encodeTree {g : CallGraph} (h : g.WellFormed) {m : MethodNode} (hm : g.methods[m.id]? = some m)
    {maxDepth : Int} (hdepth : 1 ≤ maxDepth) {trace : Json} {side : String} {d : Direction}
    (hside : trace.member? side = some (encodeTree? (d == .callers) (g.tree? d m.id maxDepth))) :
    IsAround m.name trace side (g.refs d d.phrase m) := by
  have hid : m.id < g.methods.size := (Array.getElem?_eq_some_iff.1 hm).1
  obtain ⟨levels, hlevels⟩ : ∃ levels, maxDepth.toNat = levels + 1 := Nat.exists_eq_add_one.2 (by omega)
  rw [CallGraph.tree?_eq_some hid (by omega), hlevels, encodeTree?] at hside
  refine ⟨_, _, hside, ?_, refsAt?_encodeTree_grow .., h.branches_perm hm d.phrase, fun child hchild => ?_⟩
  · rw [methodName?_encodeTree, CallGraph.visit_grow, CallGraph.visitAt, CallGraph.nameOf?, hm]
    rfl
  · rw [itemsAt_encodeTree] at hchild
    obtain ⟨t, ht, rfl⟩ := List.mem_map.1 hchild
    rw [names_encodeTree, List.mem_map]
    rintro ⟨v, hv, hname⟩
    have hbelow : v ∈ (g.grow d (levels + 1) [] m.id none).descendants := by
      rw [CallTree.descendants, CallTree.forestToList_eq_flatMap, List.mem_flatMap]
      exact ⟨t, ht, hv⟩
    exact h.name_ne_of_mem_descendants hm hbelow hname

/-- **The page of a method and the trees around it agree one level around the method.** After any run of changes
and with any counts, of each method and for each limit of at least one level, the tools tell a page and trees. What
the page lists as calls made and as calls received, without the calls of the method to itself, are the calls that the
trees start with, on either side, each of them as many times. The calls of the method to itself stand in both
listings of the page, and below the root of neither tree is the method named again. -/
theorem neighbours_agree (changes : List Change) (stats : LoadStats) (n : MethodName)
    (hn : n ∈ (({} : CallGraph).after changes).methodList) (maxDepth : Option Int)
    (hdepth : 1 ≤ maxDepth.getD defaultDepth) :
    let l : Loaded := ⟨({} : CallGraph).after changes, stats⟩
    ∃ method trace forward reverse,
      dispatch l "calltree_method" (nameArguments n) = .ok method ∧
      method.refsAt? "forward" = some forward ∧ method.refsAt? "reverse" = some reverse ∧
      dispatch l "calltree_trace" (Question.trace n maxDepth).arguments = .ok trace ∧
      IsAround n trace "callees" forward ∧ IsAround n trace "callers" reverse ∧
      ∀ t, (⟨t, n⟩ ∈ forward ↔ l.graph.Calls ⟨t, n, n⟩) ∧
        (⟨invertCallType t, n⟩ ∈ reverse ↔ l.graph.Calls ⟨t, n, n⟩) := by
  intro l
  have h : l.graph.WellFormed := (CallGraph.Tracks.empty.after changes).wellFormed
  obtain ⟨m, hfound, hm, rfl⟩ := method?_lookup_of_mem h hn
  obtain ⟨hforward, hreverse⟩ := refsAt?_encodeMethod ⟨m.name, l.graph.forwardRefs m, l.graph.reverseRefs m⟩
  have hpage := dispatch_question l (.method m.name)
  have htrees := dispatch_question l (.trace m.name maxDepth)
  rw [Question.answer, methodAnswer_of_found hfound] at hpage
  rw [Question.answer, traceAnswer_of_found hfound] at htrees
  exact ⟨_, _, _, _, hpage, hforward, hreverse, htrees, isAround_encodeTree (d := .callees) h hm hdepth rfl,
    isAround_encodeTree (d := .callers) h hm hdepth rfl,
    fun t => ⟨h.mem_forwardRefs_iff hm, h.mem_reverseRefs_iff hm⟩⟩

/-- A method that calls itself and another method, each in two ways of which one is unknown. -/
theorem neighbours_agree_loop :
    let run : MethodName := ⟨"app.Main", "run()"⟩
    let stop : MethodName := ⟨"app.Main", "stop()"⟩
    let changes : List Change := [.addClass "app.Main", .addMethod 0 "run()", .addMethod 0 "stop()",
      .addEdge ⟨"directly calls", 0, 0⟩, .addEdge ⟨"wakes", 0, 0⟩, .addEdge ⟨"wakes", 0, 1⟩,
      .addEdge ⟨"directly calls", 0, 1⟩]
    let l : Loaded := ⟨({} : CallGraph).after changes, {}⟩
    run ∈ l.graph.methodList ∧ (1 : Int) ≤ (none : Option Int).getD defaultDepth ∧
    ∃ method trace forward reverse,
      dispatch l "calltree_method" (nameArguments run) = .ok method ∧
      method.refsAt? "forward" = some forward ∧ method.refsAt? "reverse" = some reverse ∧
      dispatch l "calltree_trace" (Question.trace run none).arguments = .ok trace ∧
      IsAround run trace "callees" forward ∧ IsAround run trace "callers" reverse ∧
      forward = [⟨"directly calls", run⟩, ⟨"directly calls", stop⟩, ⟨"wakes", run⟩, ⟨"wakes", stop⟩] ∧
      reverse = [⟨"REV(wakes)", run⟩, ⟨"directly called by", run⟩] := by
  intro run stop changes l
  have hrun : run ∈ l.graph.methodList := by decide +kernel
  have hdepth : (1 : Int) ≤ (none : Option Int).getD defaultDepth := by decide
  obtain ⟨method, trace, forward, reverse, hmethod, hforward, hreverse, htrace, hcallees, hcallers, -⟩ :=
    neighbours_agree changes {} run hrun none hdepth
  have hlisted : (dispatch l "calltree_method" (nameArguments run)).toOption.bind (·.refsAt? "forward") =
      some [⟨"directly calls", run⟩, ⟨"directly calls", stop⟩, ⟨"wakes", run⟩, ⟨"wakes", stop⟩] := by
    decide +kernel
  have hlisted' : (dispatch l "calltree_method" (nameArguments run)).toOption.bind (·.refsAt? "reverse") =
      some [⟨"REV(wakes)", run⟩, ⟨"directly called by", run⟩] := by
    decide +kernel
  rw [hmethod] at hlisted hlisted'
  exact ⟨hrun, hdepth, method, trace, forward, reverse, hmethod, hforward, hreverse, htrace, hcallees, hcallers,
    Option.some.inj (hforward.symm.trans hlisted), Option.some.inj (hreverse.symm.trans hlisted')⟩

end Tools

end CallAtlas
