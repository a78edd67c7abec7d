import CallAtlas.Proofs.Graph.CallTrees
import CallAtlas.Proofs.Graph.Reading

/-!
# What can be reached from the entry points

Whatever the lines of a trace are, its graph has nothing that no entry point leads to.

* `IsGraphOf.exists_walk_of_descends`: the calls of the graph follow those of the records, so they lead from
  an entry point to each method (`IsGraphOf.exists_walk`).
* `exists_mem_toList_of_walk`: what a walk leads to stands in every tree that is as deep as the graph can
  need.
* `load_reachable`: both together, for the graph of a trace.
-/

namespace CallAtlas.Graph

open Trace

namespace CallGraph

variable {g : CallGraph} {d : Direction} {i j : MethodId} {es : List CallEdge} {top : Int}
  {taken : List Record}

namespace IsGraphOf

/-- What the records at the top lead to, entry points lead to. -/
theorem exists_walk_of_descends (h : g.IsGraphOf top taken) {name : MethodName}
    (hname : Descends top taken name) : ∃ i, g.nameOf? i = some name ∧
      ∃ entry ∈ g.entrypoints, ∃ es, g.Walk .callees entry es i := by
  induction hname with
  | @top r hr hdepth =>
    have hmem : r.method ∈ ((taken.filter (·.depth = top)).map (·.method)).eraseDups :=
      List.mem_eraseDups.2 (List.mem_map_of_mem (List.mem_filter.2 ⟨hr, by simpa using hdepth⟩))
    have hsome := List.mem_map_of_mem (f := some) hmem
    rw [← h.entrypoints] at hsome
    obtain ⟨i, hi, hname⟩ := List.mem_map.1 hsome
    exact ⟨i, hname, i, Array.mem_toList_iff.1 hi, [], .nil i⟩
  | @call c _ hc ih =>
    obtain ⟨i, hi, entry, hentry, es, hwalk⟩ := ih
    obtain ⟨e, he, -, hcaller, hcallee⟩ := (h.calls c).2 hc
    have hstep : g.Step .callees i e :=
      h.wellFormed.step_iff.2 ⟨h.wellFormed.nameOf?_injective hcaller hi, he⟩
    exact ⟨e.callee, hcallee, entry, hentry, es ++ [e], hwalk.snoc hstep⟩

/-- An entry point leads to every method. -/
theorem exists_walk (h : g.IsGraphOf top taken) (htaken : Nests top taken) (hi : i < g.methods.size) :
    ∃ entry ∈ g.entrypoints, ∃ es, g.Walk .callees entry es i := by
  obtain ⟨name, hname⟩ := exists_nameOf?_eq_some hi
  obtain ⟨r, hr, rfl⟩ := h.exists_record hname
  obtain ⟨j, hj, hwalk⟩ := h.exists_walk_of_descends (htaken.descends hr)
  rwa [h.wellFormed.nameOf?_injective hj hname] at hwalk

/-- Every class is that of a method, as it is that of a record. -/
theorem exists_method_of_class (h : g.IsGraphOf top taken) {c : ClassNode} (hc : c ∈ g.classes) :
    ∃ (i : MethodId) (m : MethodNode), g.methods[i]? = some m ∧ m.name.className = c.name := by
  have hclass : c.name ∈ g.classList := List.mem_map_of_mem (Array.mem_toList_iff.2 hc)
  rw [h.classes, List.mem_eraseDups] at hclass
  obtain ⟨r, hr, hname⟩ := List.mem_map.1 hclass
  have hmethod : r.method ∈ g.methodList := by
    rw [h.methods, List.mem_eraseDups]
    exact List.mem_map_of_mem hr
  obtain ⟨i, m, hm, hmname⟩ := CallGraph.mem_methodList_iff.1 hmethod
  exact ⟨i, m, hm, by rw [hmname, hname]⟩

theorem members_ne_nil (h : g.IsGraphOf top taken) {c : ClassNode} (hc : c ∈ g.classes) :
    c.members ≠ [] := by
  obtain ⟨i, m, hm, hname⟩ := h.exists_method_of_class hc
  obtain ⟨k, hk⟩ := Array.mem_iff_getElem?.1 hc
  obtain ⟨x, hx, hxname⟩ := h.wellFormed.owner hm
  -- The class that the method stands in is `c`, by its name.
  have hclass := h.wellFormed.className hx hk (hxname.trans hname)
  exact List.ne_nil_of_mem ((h.wellFormed.members hk ⟨m.name.signature, i⟩).2 ⟨m, hm, hclass, rfl⟩)

end IsGraphOf

/-- What a walk leads to stands in the tree around its start, if the limit is not below the greatest depth
that a simple path can have. -/
theorem exists_mem_toList_of_walk (hg : g.CallsAgree) (hi : i < g.methods.size)
    (h : g.Walk d i es j) {maxDepth : Int} (hdepth : (g.numMethods : Int) - 1 ≤ maxDepth) :
    ∃ t, g.tree? d i maxDepth = some t ∧ ∃ v ∈ t.toList, v.id = j := by
  obtain ⟨fs, hfs⟩ := h.exists_simplePath
  have hlen := hfs.length_lt hg hi
  have hnum : g.numMethods = g.methods.size := rfl
  have hdepth₀ : 0 ≤ maxDepth := by omega
  refine ⟨_, tree?_eq_some hi hdepth₀, ?_⟩
  have hway := (mem_waysTo_root_iff hdepth₀).2 ⟨by omega, hfs⟩
  obtain ⟨s, hs, hid⟩ := CallTree.mem_waysTo_iff.1 hway
  refine ⟨s.visit, ?_, hid⟩
  rw [← CallTree.map_visit_routes]
  exact List.mem_map_of_mem (f := fun p => p.2.visit) hs

end CallGraph

/-- **All that is loaded can be reached from an entry point.** Whatever the lines are: every class of the
graph has a method; a method that is no entry point is called; and for every method there is an entry
point in whose tree of calls it stands, whenever the limit of depth is at least the number of the other
methods. So a graph with a class has an entry point. -/
theorem load_reachable (lines : List String) :
    let g := (load lines).graph
    (∀ c ∈ g.classes, c.members ≠ []) ∧
    (∀ m ∈ g.methods, m.id ∉ g.entrypoints → m.reverse ≠ []) ∧
    (∀ m ∈ g.methods, ∃ entry ∈ g.entrypoints, ∀ maxDepth : Int, (g.numMethods : Int) - 1 ≤ maxDepth →
      ∃ t, g.tree? .callees entry maxDepth = some t ∧ ∃ v ∈ t.toList, v.id = m.id) ∧
    (g.classes ≠ #[] → g.entrypoints ≠ #[]) := by
  intro g
  have h := load_isGraphOf lines
  have hg : g.WellFormed := h.wellFormed
  have hwalk : ∀ {i : MethodId}, i < g.methods.size →
      ∃ entry ∈ g.entrypoints, ∃ es, g.Walk .callees entry es i := fun hi =>
    h.exists_walk (.accepted _ _) hi
  have hid : ∀ m ∈ g.methods, g.methods[m.id]? = some m := fun m hm => by
    obtain ⟨i, hi⟩ := Array.mem_iff_getElem?.1 hm
    rwa [hg.methodId hi]
  have hlt : ∀ m ∈ g.methods, m.id < g.methods.size := fun m hm =>
    (Array.getElem?_eq_some_iff.1 (hid m hm)).1
  refine ⟨fun c hc => h.members_ne_nil hc, fun m hm hentry => ?_, fun m hm => ?_, fun hclasses => ?_⟩
  · obtain ⟨entry, hmem, es, hes⟩ := hwalk (hlt m hm)
    rcases hes.eq_or_exists_step with rfl | ⟨k, e, hstep, htarget⟩
    · exact absurd hmem hentry
    · have hedge := (hg.step_iff.1 hstep).2
      exact List.ne_nil_of_mem ((hg.reverse (hid m hm) e).2 ⟨htarget, hedge⟩)
  · obtain ⟨entry, hmem, es, hes⟩ := hwalk (hlt m hm)
    exact ⟨entry, hmem, fun maxDepth hdepth =>
      CallGraph.exists_mem_toList_of_walk hg.toCallsAgree (hg.entrypoints_lt entry hmem) hes hdepth⟩
  · obtain ⟨c, hc⟩ := Array.exists_mem_of_ne_empty g.classes hclasses
    obtain ⟨i, m, hm, -⟩ := h.exists_method_of_class hc
    obtain ⟨entry, hmem, -⟩ := hwalk (Array.getElem?_eq_some_iff.1 hm).1
    exact Array.ne_empty_of_mem hmem

end CallAtlas.Graph
