import CallAtlas.Proofs.Graph.Changes
import CallAtlas.Proofs.Trace.Nesting
import Mathlib.Data.List.Induction

/-!
# Filling a call graph

What the changes give while the graph is not frozen: none is refused, and names and calls come to the
graph once each, in the order in which they are first named.

* `appendNew`: a list with one thing more at its end, unless it has that already. The lists without
  repetitions grow so (`eraseDups_append_singleton`).
* `Filling.addNamed`, `Filling.addEntrypoint`, `Filling.addEdge`: the numbers that the changes answer with,
  and all that the graph has after them.
* `CallGraph.Calls`: the calls of a graph by the names of their two methods.
-/

namespace CallAtlas.Graph

open Trace (NamedCall)

/-! ## Lists without repetitions -/

section

variable {α : Type} [DecidableEq α]

/-- The list, with `a` at its end if it did not have it. -/
def appendNew (l : List α) (a : α) : List α :=
  if a ∈ l then l else l ++ [a]

theorem appendNew_of_mem {l : List α} {a : α} (h : a ∈ l) : appendNew l a = l :=
  if_pos h

theorem appendNew_of_notMem {l : List α} {a : α} (h : a ∉ l) : appendNew l a = l ++ [a] :=
  if_neg h

theorem eraseDups_append_singleton (l : List α) (a : α) :
    (l ++ [a]).eraseDups = appendNew l.eraseDups a := by
  rw [List.eraseDups_append]
  by_cases h : a ∈ l
  · rw [appendNew_of_mem (List.mem_eraseDups.2 h)]
    simp [List.removeAll, h]
  · rw [appendNew_of_notMem (mt List.mem_eraseDups.1 h)]
    simp [List.removeAll, h, List.eraseDups_cons]

/-- Of a second list there come those that the first one does not have. -/
theorem eraseDups_append_eq_filter (xs ys : List α) :
    (xs ++ ys).eraseDups = xs.eraseDups ++ ys.eraseDups.filter (· ∉ xs.eraseDups) := by
  induction ys using List.reverseRecOn with
  | nil => simp
  | append_singleton ys a ih =>
    rw [← List.append_assoc, eraseDups_append_singleton, eraseDups_append_singleton, ih]
    by_cases hx : a ∈ xs
    · rw [appendNew_of_mem (List.mem_append_left _ (List.mem_eraseDups.2 hx))]
      by_cases hy : a ∈ ys.eraseDups
      · rw [appendNew_of_mem hy]
      · rw [appendNew_of_notMem hy, List.filter_append]
        simp [hx]
    · by_cases hy : a ∈ ys.eraseDups
      · rw [appendNew_of_mem hy, appendNew_of_mem]
        exact List.mem_append_right _ (List.mem_filter.2 ⟨hy, by simpa using hx⟩)
      · rw [appendNew_of_notMem hy, appendNew_of_notMem, List.filter_append, List.append_assoc]
        · simp [hx]
        · simp only [List.mem_append, List.mem_filter, not_or, not_and]
          exact ⟨mt List.mem_eraseDups.1 hx, fun h => absurd h hy⟩

theorem getElem?_appendNew {l : List α} {i : Nat} {x : α} (h : l[i]? = some x) (a : α) :
    (appendNew l a)[i]? = some x := by
  unfold appendNew
  split
  · exact h
  · rw [List.getElem?_append_left (List.getElem?_eq_some_iff.1 h).1]
    exact h

end

namespace CallGraph

/-- The graph has a call between methods of these names. -/
def Calls (g : CallGraph) (c : NamedCall) : Prop :=
  ∃ e, g.HasEdge e ∧ e.callType = c.callType ∧ g.nameOf? e.caller = some c.caller ∧
    g.nameOf? e.callee = some c.callee

/-- The graph is well-formed and not frozen. -/
structure Filling (g : CallGraph) : Prop extends g.WellFormed where
  notFrozen : g.frozen = false

/-- The graph `g'` is `g` with the method of that name, under the number `id`. -/
structure Named (g : CallGraph) (name : MethodName) (g' : CallGraph) (id : MethodId) : Prop where
  filling : g'.Filling
  id : g'.nameOf? id = some name
  methods : g'.methodList = appendNew g.methodList name
  classes : g'.classList = appendNew g.classList name.className
  entrypoints : g'.entrypoints = g.entrypoints
  hasEdge : ∀ e, g'.HasEdge e ↔ g.HasEdge e

variable {g : CallGraph}

/-! ## Names -/

theorem nameOf?_congr {g' : CallGraph} (h : g'.methodList = g.methodList) : g'.nameOf? = g.nameOf? := by
  funext id
  rw [nameOf?_eq, h, nameOf?_eq]

theorem lt_of_nameOf?_eq_some {id : MethodId} {name : MethodName} (h : g.nameOf? id = some name) :
    id < g.methods.size := by
  rw [nameOf?, Option.map_eq_some_iff] at h
  obtain ⟨m, hm, -⟩ := h
  exact (Array.getElem?_eq_some_iff.1 hm).1

theorem mem_methodList_of_nameOf? {id : MethodId} {name : MethodName}
    (h : g.nameOf? id = some name) : name ∈ g.methodList := by
  rw [nameOf?_eq] at h
  exact List.mem_of_getElem? h

theorem mem_methodList_iff {name : MethodName} :
    name ∈ g.methodList ↔ ∃ (i : MethodId) (m : MethodNode), g.methods[i]? = some m ∧ m.name = name := by
  rw [methodList, List.mem_map]
  constructor
  · rintro ⟨m, hm, rfl⟩
    obtain ⟨i, hi⟩ := Array.mem_iff_getElem?.1 (Array.mem_toList_iff.1 hm)
    exact ⟨i, m, hi, rfl⟩
  · rintro ⟨i, m, hm, rfl⟩
    exact ⟨m, Array.mem_toList_iff.2 (Array.mem_of_getElem? hm), rfl⟩

theorem exists_nameOf?_eq_some {id : MethodId} (h : id < g.methods.size) :
    ∃ name, g.nameOf? id = some name :=
  ⟨_, by rw [nameOf?, Array.getElem?_eq_getElem h, Option.map_some]⟩

theorem mem_methodList_of_mem_entrypointNames {name : MethodName} (h : name ∈ g.entrypointNames) :
    name ∈ g.methodList := by
  obtain ⟨id, -, hname⟩ := List.mem_filterMap.1 h
  exact mem_methodList_of_nameOf? hname

theorem entrypointNames_eq {names : List MethodName}
    (h : g.entrypoints.toList.map g.nameOf? = names.map some) : g.entrypointNames = names := by
  have hid := congrArg (List.filterMap id) h
  rw [List.filterMap_map, List.filterMap_map] at hid
  exact hid.trans List.filterMap_some

/-- A call stands in the graph under the numbers of its two methods. -/
theorem WellFormed.hasEdge_iff_calls (h : g.WellFormed) {e : CallEdge} : g.HasEdge e ↔
    ∃ c, g.Calls c ∧ e.callType = c.callType ∧ g.methodId? c.caller = some e.caller ∧
      g.methodId? c.callee = some e.callee := by
  simp only [h.methodId?_eq_some_iff]
  constructor
  · intro he
    obtain ⟨caller, hcaller⟩ := exists_nameOf?_eq_some he.caller_lt
    obtain ⟨callee, hcallee⟩ := exists_nameOf?_eq_some (h.callee_lt he)
    exact ⟨⟨e.callType, caller, callee⟩, ⟨e, he, rfl, hcaller, hcallee⟩, rfl, hcaller, hcallee⟩
  · rintro ⟨c, ⟨⟨t, i, j⟩, hx, rfl, hi, hj⟩, htype, hcaller, hcallee⟩
    obtain ⟨t', i', j'⟩ := e
    dsimp only at htype hcaller hcallee hi hj
    rwa [htype, h.nameOf?_injective hcaller hi, h.nameOf?_injective hcallee hj]

/-! ## A method more -/

namespace Named

variable {name : MethodName} {g' : CallGraph} {id : MethodId}

/-- Names known keep their numbers. -/
theorem keep (h : g.Named name g' id) {i : MethodId} {x : MethodName} (hi : g.nameOf? i = some x) :
    g'.nameOf? i = some x := by
  rw [nameOf?_eq] at hi ⊢
  rw [h.methods]
  exact getElem?_appendNew hi name

theorem keep_iff (h : g.Named name g' id) {i : MethodId} (hi : i < g.methods.size) {x : MethodName} :
    g'.nameOf? i = some x ↔ g.nameOf? i = some x := by
  refine ⟨fun hx => ?_, h.keep⟩
  obtain ⟨y, hname⟩ := exists_nameOf?_eq_some hi
  rw [h.keep hname] at hx
  rw [hname, hx]

theorem map_nameOf? (h : g.Named name g' id) {ids : List MethodId} {names : List MethodName}
    (hids : ids.map g.nameOf? = names.map some) : ids.map g'.nameOf? = names.map some := by
  rw [← hids]
  refine List.map_congr_left fun i hi => ?_
  have hmem := List.mem_map_of_mem (f := g.nameOf?) hi
  rw [hids] at hmem
  obtain ⟨x, -, hx⟩ := List.mem_map.1 hmem
  rw [← hx]
  exact h.keep hx.symm

/-- A new method comes without calls. -/
theorem calls (h : g.Named name g' id) (hg : g.CallsAgree) (c : NamedCall) :
    g'.Calls c ↔ g.Calls c := by
  refine exists_congr fun e => ?_
  rw [h.hasEdge e]
  refine and_congr_right fun he => ?_
  rw [h.keep_iff he.caller_lt, h.keep_iff (hg.callee_lt he)]

end Named

/-! ## Changes -/

namespace Filling

theorem empty : ({} : CallGraph).Filling :=
  ⟨.empty, rfl⟩

/-- A class comes to the graph if it is not there. -/
theorem addClass (h : g.Filling) (name : String) :
    ∃ (g' : CallGraph) (c : ClassNode), g.addClass name = (g', .ok c.id) ∧ g'.Filling ∧ g'.classes[c.id]? = some c ∧
      c.name = name ∧ g'.classList = appendNew g.classList name ∧ g'.methods = g.methods ∧
      g'.entrypoints = g.entrypoints := by
  have hwf := h.toWellFormed.addClass name
  rcases g.addClass_cases name with ⟨c, hc, heq⟩ | ⟨-, hf, -⟩ | ⟨hnew, hf, heq⟩
  · obtain ⟨i, hi, hname⟩ := h.class?_eq_some_iff.1 hc
    obtain rfl := h.classId hi
    have hmem : name ∈ g.classList := by
      rw [← hname]
      exact List.mem_map_of_mem (Array.mem_toList_iff.2 (Array.mem_of_getElem? hi))
    exact ⟨g, c, heq, h, hi, hname, (appendNew_of_mem hmem).symm, rfl, rfl⟩
  · rw [h.notFrozen] at hf
    cases hf
  · rw [heq] at hwf
    refine ⟨_, { id := g.classes.size, name }, heq, ⟨hwf, hf⟩, by simp [withClass], rfl, ?_, rfl, rfl⟩
    rw [classList_withClass, appendNew_of_notMem (h.class?_eq_none_iff.1 hnew)]

/-- A method comes to its class if it is not there. -/
theorem addMethod (h : g.Filling) {c : ClassNode} (hc : g.classes[c.id]? = some c)
    (signature : String) :
    ∃ (g' : CallGraph) (id : MethodId), g.addMethod c.id signature = (g', .ok id) ∧ g'.Filling ∧
      g'.nameOf? id = some ⟨c.name, signature⟩ ∧
      g'.methodList = appendNew g.methodList ⟨c.name, signature⟩ ∧ g'.classList = g.classList ∧
      g'.entrypoints = g.entrypoints ∧ ∀ e, g'.HasEdge e ↔ g.HasEdge e := by
  have hwf := h.toWellFormed.addMethod c.id signature
  have hfind : g.methodId? ⟨c.name, signature⟩ = c.find? signature := by
    rw [methodId?, h.class?_eq_some_iff.2 ⟨c.id, hc, rfl⟩]
    rfl
  rcases g.addMethod_cases c.id signature with
    ⟨hnone, -⟩ | ⟨d, hd, ⟨id, hid, heq⟩ | ⟨-, hf, -⟩ | ⟨hnew, hf, heq⟩⟩
  · rw [hc] at hnone
    cases hnone
  · rw [hc] at hd
    cases hd
    rw [← hfind, h.methodId?_eq_some_iff] at hid
    exact ⟨g, id, heq, h, hid, (appendNew_of_mem (mem_methodList_of_nameOf? hid)).symm, rfl, rfl,
      fun e => .rfl⟩
  · rw [h.notFrozen] at hf
    cases hf
  · rw [hc] at hd
    cases hd
    rw [heq rfl] at hwf
    rw [← hfind, h.methodId?_eq_none_iff] at hnew
    refine ⟨_, _, heq rfl, ⟨hwf, hf⟩, ?_, ?_, classList_withMethod .., rfl, fun e => hasEdge_withMethod⟩
    · simp [nameOf?, withMethod]
    · rw [methodList_withMethod, appendNew_of_notMem hnew]

/-- A method and its class come to the graph if they are not there. -/
theorem addNamed (h : g.Filling) (name : MethodName) :
    ∃ g' id, g.addNamed name = (g', .ok id) ∧ g.Named name g' id := by
  obtain ⟨g₁, c, heq₁, h₁, hc, hname, hclasses, hmethods, hentry₁⟩ := h.addClass name.className
  obtain ⟨g₂, id, heq₂, h₂, hid, hlist, hclasses₂, hentry₂, hedge⟩ := h₁.addMethod hc name.signature
  have hlist₁ : g₁.methodList = g.methodList := by rw [methodList, hmethods, methodList]
  have hedge₁ : ∀ e, g₁.HasEdge e ↔ g.HasEdge e := fun e => by rw [HasEdge, hmethods, HasEdge]
  rw [hname] at hid hlist
  refine ⟨g₂, id, ?_, h₂, hid, hlist₁ ▸ hlist, hclasses₂.trans hclasses, hentry₂.trans hentry₁,
    fun e => (hedge e).trans (hedge₁ e)⟩
  rw [CallGraph.addNamed, heq₁]
  exact heq₂

/-- A method comes to the entry points if it is not one of them. -/
theorem addEntrypoint (h : g.Filling) {id : MethodId} {name : MethodName}
    (hid : g.nameOf? id = some name) {names : List MethodName}
    (hnames : g.entrypoints.toList.map g.nameOf? = names.map some) :
    ∃ (g' : CallGraph) (isNew : Bool), g.addEntrypoint id = (g', .ok isNew) ∧ g'.Filling ∧
      g'.methodList = g.methodList ∧ g'.classList = g.classList ∧
      g'.entrypoints.toList.map g'.nameOf? = (appendNew names name).map some ∧
      ∀ c, g'.Calls c ↔ g.Calls c := by
  have hmem : id ∈ g.entryIds ↔ name ∈ names := by
    rw [h.mem_entryIds_iff]
    constructor
    · intro hmem
      have := List.mem_map_of_mem (f := g.nameOf?) (Array.mem_toList_iff.2 hmem)
      rw [hnames, hid] at this
      simpa using this
    · intro hmem
      have := List.mem_map_of_mem (f := some) hmem
      rw [← hnames] at this
      obtain ⟨i, hi, hname⟩ := List.mem_map.1 this
      rw [h.nameOf?_injective hid hname]
      exact Array.mem_toList_iff.1 hi
  have hwf := h.toWellFormed.addEntrypoint id
  have hlt := lt_of_nameOf?_eq_some hid
  rcases g.addEntrypoint_cases id with
    ⟨hf, -⟩ | ⟨-, hle, -⟩ | ⟨-, -, hold, heq⟩ | ⟨hf, -, hnew, heq⟩
  · rw [h.notFrozen] at hf
    cases hf
  · exact absurd hlt (Nat.not_lt_of_le hle)
  · refine ⟨g, false, heq, h, rfl, rfl, ?_, fun c => .rfl⟩
    rw [hnames, appendNew_of_mem (hmem.1 hold)]
  · rw [heq] at hwf
    refine ⟨_, true, heq, ⟨hwf, hf⟩, rfl, rfl, ?_, fun c => .rfl⟩
    show (g.entrypoints.push id).toList.map g.nameOf? = _
    rw [appendNew_of_notMem (mt hmem.2 hnew)]
    simp [hnames, hid]

/-- A call comes to the graph if it is not there. -/
theorem addEdge (h : g.Filling) (callType : String) {i j : MethodId} {caller callee : MethodName}
    (hi : g.nameOf? i = some caller) (hj : g.nameOf? j = some callee) :
    ∃ (g' : CallGraph) (isNew : Bool), g.addEdge ⟨callType, i, j⟩ = (g', .ok isNew) ∧ g'.Filling ∧
      g'.methodList = g.methodList ∧ g'.classList = g.classList ∧ g'.entrypoints = g.entrypoints ∧
      ∀ c, g'.Calls c ↔ g.Calls c ∨ c = ⟨callType, caller, callee⟩ := by
  have hwf := h.toWellFormed.addEdge ⟨callType, i, j⟩
  have hcalls : ∀ c : NamedCall, c = ⟨callType, caller, callee⟩ ↔
      callType = c.callType ∧ g.nameOf? i = some c.caller ∧ g.nameOf? j = some c.callee := by
    rintro ⟨t, a, b⟩
    simp [hi, hj, eq_comm]
  rcases g.addEdge_cases ⟨callType, i, j⟩ with
    ⟨hf, -⟩ | ⟨-, hle, -⟩ | ⟨-, hold, heq⟩ | ⟨hf, hnew, hcaller, hcallee, heq⟩
  · rw [h.notFrozen] at hf
    cases hf
  · rcases hle with hle | hle
    · exact absurd (lt_of_nameOf?_eq_some hi) (Nat.not_lt_of_le hle)
    · exact absurd (lt_of_nameOf?_eq_some hj) (Nat.not_lt_of_le hle)
  · refine ⟨g, false, heq, h, rfl, rfl, rfl, fun c => ?_⟩
    rw [hcalls]
    exact (or_iff_left_of_imp fun hc => ⟨_, hold, hc⟩).symm
  · rw [heq] at hwf
    refine ⟨_, true, heq, ⟨hwf, hf⟩, methodList_withEdge _, rfl, rfl, fun c => ?_⟩
    rw [hcalls]
    simp only [Calls, hasEdge_withEdge hcaller, nameOf?_eq, methodList_withEdge]
    constructor
    · rintro ⟨e, rfl | he, hc⟩
      exacts [.inr hc, .inl ⟨e, he, hc⟩]
    · rintro (⟨e, he, hc⟩ | hc)
      exacts [⟨e, .inr he, hc⟩, ⟨_, .inl rfl, hc⟩]

end Filling

end CallGraph

end CallAtlas.Graph
