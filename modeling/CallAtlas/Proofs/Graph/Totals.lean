import CallAtlas.Proofs.Graph.Frozen
import CallAtlas.Proofs.Graph.Listings

/-!
# Totals

What a run counts as it goes is what the graph has in the end, and what its listings add up to.

* `Builder.Counted`, `load_counted`: the counts of calls and of entry points are those of the graph.
* `WellFormed.classInfos_perm`, `WellFormed.entries_perm`: the classes listed are those of the graph, and the
  methods listed under them are its methods, each with its numbers of calls.
* `WellFormed.sum_forwardCount`, `WellFormed.sum_reverseCount`: so these numbers add up to the number of calls.
-/

namespace CallAtlas.Graph

open Trace

/-! ## Counts of a run -/

namespace CallGraph

variable {g : CallGraph}

/-- To name a method adds no call and no entry point. -/
theorem addNamed_frame (g : CallGraph) (name : MethodName) :
    (g.addNamed name).1.numEdges = g.numEdges ∧ (g.addNamed name).1.entrypoints = g.entrypoints := by
  have hmethod : ∀ (g : CallGraph) (classId : ClassId), (g.addMethod classId name.signature).1.numEdges =
      g.numEdges ∧ (g.addMethod classId name.signature).1.entrypoints = g.entrypoints := by
    intro g classId
    unfold addMethod
    repeat' split
    all_goals exact ⟨rfl, rfl⟩
  unfold addNamed
  rcases g.addClass_cases name.className with ⟨c, -, heq⟩ | ⟨-, -, heq⟩ | ⟨-, -, heq⟩ <;> rw [heq]
  exacts [hmethod g c.id, ⟨rfl, rfl⟩, hmethod (g.withClass name.className) g.classes.size]

end CallGraph

namespace Builder

/-- The calls and the entry points are counted as the graph has them. -/
structure Counted (b : Builder) : Prop where
  edges : b.stats.edges = b.graph.numEdges
  entrypoints : b.stats.entrypoints = b.graph.entrypoints.size

namespace Counted

variable {b : Builder}

/-- What keeps the graph and its counts keeps them counted. -/
theorem keeps {b' : Builder} (h : b.Counted) (hkeeps : b.Keeps b') : b'.Counted where
  edges := by rw [hkeeps.edges, hkeeps.graph, h.edges]
  entrypoints := by rw [hkeeps.entrypoints, hkeeps.graph, h.entrypoints]

theorem enter (h : b.Counted) (id : MethodId) : (b.enter id).1.Counted := by
  obtain ⟨graph, frames, origin, stats⟩ := b
  rw [Builder.enter]
  rcases graph.addEntrypoint_cases id with
    ⟨-, heq⟩ | ⟨-, -, heq⟩ | ⟨-, -, -, heq⟩ | ⟨-, -, -, heq⟩ <;> rw [heq]
  · exact h
  · exact h
  · exact ⟨h.edges, h.entrypoints⟩
  · refine ⟨h.edges, ?_⟩
    show stats.entrypoints + 1 = (graph.entrypoints.push id).size
    rw [Array.size_push, ← h.entrypoints]

theorem connect (h : b.Counted) (e : CallEdge) : (b.connect e).1.Counted := by
  obtain ⟨graph, frames, origin, stats⟩ := b
  rw [Builder.connect]
  rcases graph.addEdge_cases e with
    ⟨-, heq⟩ | ⟨-, -, heq⟩ | ⟨-, -, heq⟩ | ⟨-, -, -, -, heq⟩ <;> rw [heq]
  · exact h
  · exact h
  · exact ⟨h.edges, h.entrypoints⟩
  · refine ⟨?_, h.entrypoints⟩
    show stats.edges + 1 = graph.numEdges + 1
    rw [← h.edges]

theorem place (h : b.Counted) (r : Record) (level : Nat) : (b.place r level).1.Counted := by
  obtain ⟨hedges, hentrypoints⟩ := b.graph.addNamed_frame r.method
  rcases b.place_cases r level with ⟨g, e, hadd, heq⟩ | ⟨g, id, hadd, hplaced⟩
  · rw [hadd] at hedges hentrypoints
    rw [heq]
    exact ⟨h.edges.trans hedges.symm, h.entrypoints.trans (congrArg Array.size hentrypoints.symm)⟩
  · rw [hadd] at hedges hentrypoints
    have hnamed : (b.placed level g id).Counted :=
      ⟨h.edges.trans hedges.symm, h.entrypoints.trans (congrArg Array.size hentrypoints.symm)⟩
    rcases hplaced with ⟨-, heq⟩ | ⟨caller, -, heq⟩ <;> rw [heq]
    · refine enter (hnamed.keeps ?_) id
      obtain ⟨notices, hcheck, -⟩ := checkEntry_eq (b.placed level g id) r
      rw [hcheck]
      exact ⟨rfl, rfl, rfl, rfl⟩
    · exact hnamed.connect _

theorem addRecord (h : b.Counted) (r : Record) : (b.addRecord r).1.Counted := by
  rcases b.addRecord_cases r with ⟨-, m, heq⟩ | ⟨-, -, heq⟩ <;> rw [heq]
  · exact h.keeps ⟨rfl, rfl, rfl, rfl⟩
  · have horigin : Counted { b with origin := some (b.origin.getD (min r.depth 0)) } :=
      h.keeps ⟨rfl, rfl, rfl, rfl⟩
    exact horigin.place r _

end Counted

end Builder

/-- The counts of calls and of entry points that a trace is loaded with are those of its graph. -/
theorem load_counted (lines : List String) :
    (load lines).stats.edges = (load lines).graph.numEdges ∧
      (load lines).stats.entrypoints = (load lines).graph.entrypoints.size := by
  have h : (Builder.addLinesFrom (fun _ => true) {} true 1 lines).1.Counted :=
    Builder.addLinesFrom_induction (fun b hb => hb.keeps ⟨rfl, rfl, rfl, rfl⟩)
      (fun b m hb => hb.keeps ⟨rfl, rfl, rfl, rfl⟩) (fun b r hb => hb.addRecord r) _ _ _ _ ⟨rfl, rfl⟩
  exact ⟨h.edges, h.entrypoints⟩

/-! ## Sums over the listings -/

/-- A method as it is listed under its class, with its full name. -/
def MethodNode.entry (m : MethodNode) : MethodName × MethodSummary :=
  (m.name, ⟨m.name.signature, m.forward.length, m.reverse.length⟩)

/-- The methods listed for a class, with their full names. -/
def ClassInfo.entries (info : ClassInfo) : List (MethodName × MethodSummary) :=
  info.methods.map fun s => (⟨info.name, s.signature⟩, s)

namespace CallGraph

/-- The classes as they are listed, each with its methods. -/
def classInfos (g : CallGraph) : List ClassInfo :=
  g.classNames.filterMap g.classInfo?

/-- All methods as they are listed. -/
def entries (g : CallGraph) : List (MethodName × MethodSummary) :=
  g.classInfos.flatMap ClassInfo.entries

namespace WellFormed

variable {g : CallGraph}

theorem nodup_methodList (h : g.WellFormed) : g.methodList.Nodup := by
  rw [List.nodup_iff_getElem?_ne_getElem?]
  intro i j hij hj heq
  have hname := List.getElem?_eq_getElem hj
  rw [hname] at heq
  rw [← nameOf?_eq] at heq hname
  exact Nat.ne_of_lt hij (h.nameOf?_injective heq hname)

/-- The classes listed are those of the graph. -/
theorem classInfos_perm (h : g.WellFormed) :
    g.classInfos.Perm (g.classes.toList.map fun c => ⟨c.name, g.classMethods c⟩) := by
  have hinfo : g.classList.filterMap g.classInfo? =
      g.classes.toList.map fun c => (⟨c.name, g.classMethods c⟩ : ClassInfo) := by
    rw [classList, List.filterMap_map, ← List.filterMap_eq_map]
    exact List.filterMap_congr fun c hc => h.classInfo?_of_mem (Array.mem_toList_iff.1 hc)
  rw [← hinfo]
  exact h.classNames_perm.filterMap _

/-- No method is listed twice. -/
theorem nodup_entries (h : g.WellFormed) : g.entries.Nodup := by
  rw [entries, (h.classInfos_perm.flatMap_right _).nodup_iff, List.flatMap_map, List.nodup_flatMap]
  constructor
  · intro c hc
    obtain ⟨k, hk⟩ := Array.mem_iff_getElem?.1 (Array.mem_toList_iff.1 hc)
    exact (h.ascends_classMethods hk).nodup.map fun s t hst => (Prod.mk.inj hst).2
  · -- The listings of two classes name different classes.
    refine (List.pairwise_map.1 h.nodup_classList).imp fun {c d} hne x hx hy => ?_
    obtain ⟨s, -, rfl⟩ := List.mem_map.1 hx
    obtain ⟨t, -, heq⟩ := List.mem_map.1 hy
    exact hne (congrArg (·.1.className) heq).symm

/-- The methods listed are those of the graph, each with the numbers of its calls. -/
theorem entries_perm (h : g.WellFormed) : g.entries.Perm (g.methods.toList.map MethodNode.entry) := by
  have hnodup : (g.methods.toList.map MethodNode.entry).Nodup := by
    refine .of_map Prod.fst ?_
    rw [List.map_map]
    exact h.nodup_methodList
  rw [List.perm_ext_iff_of_nodup h.nodup_entries hnodup]
  intro x
  rw [entries, (h.classInfos_perm.flatMap_right _).mem_iff, List.flatMap_map, List.mem_flatMap,
    List.mem_map]
  constructor
  · rintro ⟨c, hc, hx⟩
    obtain ⟨k, hk⟩ := Array.mem_iff_getElem?.1 (Array.mem_toList_iff.1 hc)
    obtain ⟨s, hs, rfl⟩ := List.mem_map.1 hx
    obtain ⟨i, m, hm, hname, hforward, hreverse⟩ := (h.mem_classMethods_iff hk).1 hs
    refine ⟨m, Array.mem_toList_iff.2 (Array.mem_of_getElem? hm), ?_⟩
    rw [MethodNode.entry, hname, hforward, hreverse]
  · rintro ⟨m, hm, rfl⟩
    obtain ⟨i, hi⟩ := Array.mem_iff_getElem?.1 (Array.mem_toList_iff.1 hm)
    obtain ⟨c, hc, hname⟩ := h.owner hi
    have hfull : m.name = ⟨c.name, m.name.signature⟩ := by rw [hname]
    refine ⟨c, Array.mem_toList_iff.2 (Array.mem_of_getElem? hc), List.mem_map.2
      ⟨m.entry.2, (h.mem_classMethods_iff hc).2 ⟨i, m, hi, hfull, rfl, rfl⟩, ?_⟩⟩
    rw [MethodNode.entry, Prod.mk.injEq]
    exact ⟨hfull.symm, rfl⟩

/-- The numbers of calls made that are listed add up to the number of calls. -/
theorem sum_forwardCount (h : g.WellFormed) : (g.entries.map (·.2.forwardCount)).sum = g.numEdges := by
  rw [(h.entries_perm.map _).sum_nat, List.map_map]
  exact h.numEdges_forward

/-- The numbers of calls received that are listed add up to the number of calls. -/
theorem sum_reverseCount (h : g.WellFormed) : (g.entries.map (·.2.reverseCount)).sum = g.numEdges := by
  rw [(h.entries_perm.map _).sum_nat, List.map_map]
  exact h.numEdges_reverse

/-- Each entry point is listed. -/
theorem length_entrypointNames (h : g.WellFormed) : g.entrypointNames.length = g.entrypoints.size := by
  have hnames : g.entrypointNames = g.entrypoints.toList.map fun id => (g.nameOf? id).getD default := by
    rw [entrypointNames, ← List.filterMap_eq_map]
    refine List.filterMap_congr fun id hid => ?_
    obtain ⟨name, hname⟩ := exists_nameOf?_eq_some (h.entrypoints_lt id (Array.mem_toList_iff.1 hid))
    simp [hname]
  rw [hnames, List.length_map, Array.length_toList]

end WellFormed

end CallGraph

end CallAtlas.Graph
