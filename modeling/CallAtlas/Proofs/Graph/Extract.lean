import CallAtlas.Proofs.Graph.Outlines
import CallAtlas.Proofs.Graph.RoundTrip

/-!
# A call tree as a trace

The nodes of a call tree, one line each, are a trace again, and give the tree back.

* `Visit.line`: the line of a node.
* `Spells`: a forest of calls lists the nodes of a tree and makes the calls to them;
  `Legible.exists_spells_grow`: there is one for the nodes below the root of every tree.
* `load_extract`: the graph of the lines of a tree has the calls to the nodes of the tree and no others,
  and the tree around its entry point is the one that was written.
-/

namespace CallAtlas.Graph

open Trace CallGraph

/-! ## Lines of nodes -/

/-- The type of the call to the node; the root counts as an entry point. -/
def Visit.callType (v : Visit) : String :=
  match v.edge with
  | none => entryCallType
  | some e => e.callType

/-- The line of a node: the call to it, one level below that of its parent. -/
def Visit.line (v : Visit) : String :=
  String.ofList (List.replicate (levelWidth * (v.depth + 1)) ' ') ++ v.callType ++ " " ++
    v.name.qualified ++ ":"

/-- The forest lists the nodes, and makes the calls to them when its roots are called by the method. -/
structure Spells (g : CallGraph) (f : Forest) (caller : MethodName) (columns : Nat)
    (vs : List Visit) : Prop where
  lines : f.lines columns = vs.map Visit.line
  calls : ∀ c, c ∈ f.callsFrom caller ∨ c ∈ f.calls ↔ ∃ v ∈ vs, ∃ e, v.edge = some e ∧ g.named e = c

namespace Spells

variable {g : CallGraph} {inner next : Forest} {caller : MethodName} {columns : Nat} {vs ws : List Visit}

theorem nil : Spells g .nil caller columns [] :=
  ⟨rfl, by simp [Forest.callsFrom, Forest.roots, Forest.calls]⟩

/-- A node, those below it, and those after these. -/
theorem cons {call : Call} {v : Visit} {e : CallEdge} (hline : call.line columns = v.line)
    (hedge : v.edge = some e) (hnamed : g.named e = ⟨call.callType, caller, call.method⟩)
    (hinner : Spells g inner call.method (columns + levelWidth) vs)
    (hnext : Spells g next caller columns ws) :
    Spells g (.cons call inner next) caller columns (v :: (vs ++ ws)) where
  lines := by
    rw [Forest.lines, hline, hinner.lines, hnext.lines, List.map_cons, List.map_append]
  calls c := by
    have hinner := hinner.calls c
    have hnext := hnext.calls c
    simp only [Forest.callsFrom, Forest.roots, Forest.calls, List.map_cons, List.mem_cons,
      List.mem_append, or_and_right, exists_or, exists_eq_left, hedge, Option.some.injEq,
      exists_eq_left', hnamed] at hinner hnext ⊢
    rw [← hinner, ← hnext, eq_comm]
    simp only [or_assoc, or_comm, or_left_comm]

end Spells

namespace CallGraph.Legible

variable {g : CallGraph} {path : List MethodId} {id : MethodId} {edge : Option CallEdge} {levels : Nat}

/-- The call, as a line can carry it. -/
def call (h : g.Legible) {e : CallEdge} (he : g.HasEdge e) : Call where
  callType := e.callType
  method := (g.named e).callee
  rest := ""
  isCallType := h.callType he
  isClassName := (h.methodName (h.nameOf?_callee he)).className
  isSignature := (h.methodName (h.nameOf?_callee he)).signature

theorem line_call (h : g.Legible) {e : CallEdge} (he : g.HasEdge e) (path : List MethodId) :
    (h.call he).line (levelWidth * (path.length + 1)) = (g.visitAt path e.callee (some e)).line :=
  String.append_empty

/-- If there is a forest for the nodes below each of the nodes that calls from a method lead to, there is one
for all of them. -/
theorem exists_spells_flatMap (h : g.Legible) {name : MethodName} (hname : g.nameOf? id = some name)
    {columns : Nat} (hcolumns : columns = levelWidth * (path.length + 2))
    (hbelow : ∀ e, g.Step .callees id e → ∃ f, Spells g f (g.named e).callee (columns + levelWidth)
      (g.grow .callees levels (id :: path) e.callee (some e)).descendants)
    {es : List CallEdge} (hes : ∀ e ∈ es, g.Step .callees id e) :
    ∃ f, Spells g f name columns
      (es.flatMap fun e => (g.grow .callees levels (id :: path) e.callee (some e)).toList) := by
  induction es with
  | nil => exact ⟨.nil, .nil⟩
  | cons e es ih =>
    obtain ⟨next, hnext⟩ := ih fun x hx => hes x (List.mem_cons_of_mem _ hx)
    have hstep := hes e List.mem_cons_self
    obtain ⟨inner, hinner⟩ := hbelow e hstep
    obtain ⟨hsource, he⟩ := h.step_iff.1 hstep
    have hcaller : (g.named e).caller = name := by
      have := WellFormed.nameOf?_caller he
      rw [show e.caller = id from hsource, hname] at this
      exact (Option.some.inj this).symm
    have hnamed : g.named e = ⟨e.callType, name, (g.named e).callee⟩ := by
      rw [← hcaller]
      rfl
    refine ⟨.cons (h.call he) inner next, ?_⟩
    rw [List.flatMap_cons, CallTree.toList_eq_cons, visit_grow, List.cons_append]
    exact .cons (hcolumns ▸ h.line_call he (id :: path)) rfl hnamed hinner hnext

/-- There is a forest for the nodes below the root of a tree. -/
theorem exists_spells_grow (h : g.Legible) {name : MethodName} (hname : g.nameOf? id = some name)
    {columns : Nat} (hcolumns : columns = levelWidth * (path.length + 2)) :
    ∃ f, Spells g f name columns (g.grow .callees levels path id edge).descendants := by
  induction levels generalizing path id edge name columns with
  | zero => exact ⟨.nil, .nil⟩
  | succ levels ih =>
    rw [descendants_grow_succ]
    refine h.exists_spells_flatMap hname hcolumns (fun e he => ?_) fun e he => (mem_branches_iff.1 he).1
    exact ih (h.nameOf?_callee (h.step_iff.1 he).2) (by rw [hcolumns]; rfl)

end CallGraph.Legible

/-! ## Reading the lines -/

/-- The lines of a tree are the listing of a forest with a single root, its entry point. -/
theorem CallGraph.Legible.exists_forest_of_tree {g : CallGraph} (h : g.Legible) {r : MethodId}
    (hr : r < g.methods.size) (levels : Nat) :
    let t := g.grow .callees levels [] r none
    ∃ (root : Call) (inner : Forest), root.callType = entryCallType ∧ root.method = t.visit.name ∧
      (Forest.cons root inner .nil).lines levelWidth = t.toList.map Visit.line ∧
      ∀ c, c ∈ (Forest.cons root inner .nil).calls ↔
        ∃ v ∈ t.toList, ∃ e, v.edge = some e ∧ g.named e = c := by
  intro t
  have hvisit : t.visit = g.visitAt [] r none := visit_grow levels
  have hname : g.nameOf? r = some t.visit.name := by
    rw [hvisit]
    exact nameOf?_eq_some_visitAt hr
  have hlegible := h.methodName hname
  obtain ⟨inner, hinner⟩ : ∃ f, Spells g f t.visit.name (levelWidth + levelWidth) t.descendants :=
    h.exists_spells_grow hname rfl
  have hedge : t.visit.edge = none := by rw [hvisit]; rfl
  have hdepth : t.visit.depth = 0 := by rw [hvisit]; rfl
  let root : Call := ⟨entryCallType, t.visit.name, "", by decide, hlegible.className, hlegible.signature⟩
  have hroot : root.line levelWidth = t.visit.line := by
    rw [Visit.line, Visit.callType, hedge, hdepth]
    exact String.append_empty
  refine ⟨root, inner, rfl, rfl, ?_, fun c => ?_⟩
  · rw [Forest.lines, Forest.lines, List.append_nil, hroot, hinner.lines, t.toList_eq_cons, List.map_cons]
  · rw [Forest.calls, Forest.calls, List.append_nil, List.mem_append, hinner.calls c, t.toList_eq_cons]
    simp [hedge]

/-- A listing gives a builder in step with its records, and no line is refused. -/
theorem exists_reads_of_listing (l : Layout) (header : String) (f : Forest) :
    ∃ (b : Builder) (top : Int) (taken : List Record), b.Follows top taken ∧ f.Reads top taken ∧
      load (header :: f.lines l.column) = ⟨b.graph.freeze, b.stats⟩ ∧ b.stats.malformed = 0 := by
  obtain ⟨b, hb, hload, hcount⟩ := load_follows (header :: f.lines l.column)
  rw [readable_header] at hb
  rw [kept_header] at hcount
  have hreads := reads_startLevel f l
  generalize readable true 2 (f.lines l.column) = rs at hb hreads
  generalize startLevel rs = top at hb hreads
  have htaken : accepted top rs = rs := hreads.foldl_extend (Int.le_refl top) (by simp [openLevels])
  rw [htaken] at hb
  refine ⟨b, top, rs, hb, hreads, hload, ?_⟩
  have hkept := kept_le_length true 2 (f.lines l.column)
  have hrecords : b.stats.records = f.nodes.length := by
    rw [hb.records, ← List.length_map (·.method), hreads.map_method, List.length_map]
  rw [f.length_lines] at hkept
  omega

/-- The calls of a forest's records are those that it makes. -/
theorem made_iff_of_reads {f : Forest} {top : Int} {taken : List Record} (h : f.Reads top taken)
    {c : NamedCall} : Made top taken c ↔ c ∈ f.calls := by
  have hmade : Made top ([] ++ taken) c ↔ _ := h.made (Int.le_refl top)
  rw [← List.nil_append taken, hmade]
  simp [made_nil]

/-- The graph of the lines of a tree has the calls to the nodes of the tree, and the root as its entry
point. -/
theorem CallGraph.Legible.load_lines_of_tree {g : CallGraph} (h : g.Legible) {r : MethodId}
    (hr : r < g.methods.size) (levels : Nat) (header : String) :
    let t := g.grow .callees levels [] r none
    let loaded := load (header :: t.toList.map Visit.line)
    loaded.stats.malformed = 0 ∧ loaded.stats.warnings = [] ∧ loaded.graph.WellFormed ∧
      (∃ entry, loaded.graph.entrypoints.toList = [entry] ∧
        loaded.graph.nameOf? entry = some t.visit.name) ∧
      ∀ c, loaded.graph.Calls c ↔ ∃ v ∈ t.toList, ∃ e, v.edge = some e ∧ g.named e = c := by
  intro t loaded
  obtain ⟨root, inner, htype, hmethod, hlines, hcalls⟩ := h.exists_forest_of_tree hr levels
  obtain ⟨b, top, taken, hb, hreads, hload, hmalformed⟩ :=
    exists_reads_of_listing .indented header (.cons root inner .nil)
  have hloaded : loaded = ⟨b.graph.freeze, b.stats⟩ := by
    rw [← hload]
    exact congrArg (fun ls => load (header :: ls)) hlines.symm
  rw [hloaded]
  refine ⟨hmalformed, ?_, hb.filling.toWellFormed.freeze, ?_, fun c => ?_⟩
  · have hroots := hreads.length_filter_callType (· ≠ entryCallType)
    show b.stats.warnings = []
    rw [LoadStats.warnings, hb.unexpectedEntries, Builder.unexpected, List.map_eq_nil_iff,
      List.map_eq_nil_iff, ← List.length_eq_zero_iff]
    refine hroots.trans ?_
    simp [Forest.roots, htype]
  · have hentry := hb.entrypoints
    have hsingle : [t.visit.name].eraseDups = [t.visit.name] := by simp [List.eraseDups_cons]
    rw [hreads.map_method_filter_depth, Forest.roots, Forest.roots, List.map_singleton, hmethod, hsingle,
      List.map_singleton, List.map_eq_singleton_iff] at hentry
    exact hentry
  · rw [← hcalls, ← made_iff_of_reads hreads]
    exact hb.calls c

/-- **A call tree written as a trace and read back is the same tree.** Take the graph of any lines, one of
its methods and a limit that is not negative, and write the nodes of the tree around the method, each on a
line of its own. No line is refused, and none gives a warning; the method is the one entry point. The
graph read has, by name, the calls to the nodes of the tree and no others, all of them calls of the first
graph; and the tree around the entry point, to the same limit, shows the same as the one written. -/
theorem load_extract (lines : List String) (header : String) (r : MethodId) (maxDepth : Int)
    (hr : r < (load lines).graph.numMethods) (hdepth : 0 ≤ maxDepth) :
    let G := (load lines).graph
    ∃ t, G.tree? .callees r maxDepth = some t ∧ G.nameOf? r = some t.visit.name ∧
      let loaded := load (header :: t.toList.map Visit.line)
      let H := loaded.graph
      loaded.stats.malformed = 0 ∧ loaded.stats.warnings = [] ∧
      H.WellFormed ∧ H.entrypointNames = [t.visit.name] ∧
      (∀ v ∈ t.toList, ∀ e, v.edge = some e → G.HasEdge e) ∧
      (∀ c, H.Calls c ↔ ∃ v ∈ t.toList, ∃ e, v.edge = some e ∧ G.named e = c) ∧
      ∃ r' t', H.methodId? t.visit.name = some r' ∧ H.tree? .callees r' maxDepth = some t' ∧
        t'.outline = t.outline := by
  intro G
  have hG : G.Legible := load_legible lines
  refine ⟨_, tree?_eq_some hr hdepth, ?_, ?_⟩
  · rw [visit_grow]
    exact nameOf?_eq_some_visitAt hr
  obtain ⟨hmalformed, hwarnings, hH, ⟨entry, hentry, hname⟩, hcalls⟩ :=
    hG.load_lines_of_tree hr maxDepth.toNat header
  intro loaded H
  have hedges : ∀ v ∈ (G.grow .callees maxDepth.toNat [] r none).toList, ∀ e, v.edge = some e →
      G.HasEdge e := fun _ hv _ he => hG.hasEdge_of_mem_toList hv he
  have hsub : ∀ c, H.Calls c → G.Calls c := fun c hc => by
    obtain ⟨v, hv, e, he, rfl⟩ := (hcalls c).1 hc
    exact hG.calls_iff.2 ⟨e, hedges v hv e he, rfl⟩
  refine ⟨hmalformed, hwarnings, hH, ?_, hedges, hcalls, entry, _,
    hH.methodId?_eq_some_iff.2 hname, tree?_eq_some (lt_of_nameOf?_eq_some hname) hdepth, ?_⟩
  · exact entrypointNames_eq (by rw [hentry, List.map_singleton, List.map_singleton, hname])
  · have hroot : [r].map G.nameOf? = [entry].map H.nameOf? := by
      rw [List.map_singleton, List.map_singleton, hname, visit_grow, nameOf?_eq_some_visitAt hr]
    refine (outline_grow_eq hG hH hsub hroot rfl fun v hv e he => ?_).symm
    refine (hcalls _).2 ⟨v, ?_, e, he, rfl⟩
    rw [CallTree.toList_eq_cons]
    exact List.mem_cons_of_mem _ hv

/-- Two methods that call each other, the first as an entry point. The tree around the second has the two
calls, and written as a trace it makes the second the entry point. -/
theorem load_extract_cycle :
    let G := (load ["header", "    entry app.Main.run():", "        directly calls app.Main.stop():",
      "            virtually calls app.Main.run():"]).graph
    1 < G.numMethods ∧ (0 : Int) ≤ 2 ∧
    ∃ t, G.tree? .callees (1 : MethodId) 2 = some t ∧
      t.toList.map Visit.line = ["    entry app.Main.stop():", "        virtually calls app.Main.run():"] ∧
      let loaded := load ("header" :: t.toList.map Visit.line)
      loaded.stats.malformed = 0 ∧ loaded.graph.entrypointNames = [t.visit.name] ∧
      ∃ r' t', loaded.graph.tree? .callees (r' : MethodId) 2 = some t' ∧ t'.outline = t.outline := by
  intro G
  have hr : 1 < G.numMethods := by decide +kernel
  have hlines : (G.tree? .callees (1 : MethodId) 2).map (·.toList.map Visit.line) =
      some ["    entry app.Main.stop():", "        virtually calls app.Main.run():"] := by
    decide +kernel
  obtain ⟨t, ht, -, hmalformed, -, -, hentry, -, -, r', t', -, ht', houtline⟩ :=
    load_extract _ "header" 1 2 hr (by decide)
  rw [show G.tree? .callees (1 : MethodId) 2 = some t from ht] at hlines
  exact ⟨hr, by decide, t, ht, Option.some.inj hlines, hmalformed, hentry, r', t', ht', houtline⟩

end CallAtlas.Graph
