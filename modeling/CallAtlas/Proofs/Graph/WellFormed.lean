import CallAtlas.Graph.Query
import Mathlib.Algebra.GroupWithZero.Nat
import Mathlib.Data.List.Nodup

/-!
# Well-formed call graphs

A call graph keeps each fact twice: a class stands at its position and in the index by name, a method
stands in the array of methods and in the table of its class, a call stands with its caller and with
the method called, the calls are counted, and an entry point stands in an array and in a set.
`CallGraph.WellFormed` says that these agree.

* `NamesAgree.mem_classIndex_iff`: the index has the classes, each under its name.
* `WellFormed.class?_eq_some_iff`, `WellFormed.methodId?_eq_some_iff`: a class, or a method, is found by
  name exactly under its own name.
* `CallsAgree.mem_forward_iff`, `CallsAgree.mem_reverse_iff`: a call stands at one of its ends exactly if
  it stands at the other.
-/

namespace CallAtlas.Graph

namespace CallGraph

variable (g : CallGraph)

/-- The names of the classes, in the order in which they came. -/
def classList : List String :=
  g.classes.toList.map (·.name)

/-- The names of the methods, in the order in which they came. -/
def methodList : List MethodName :=
  g.methods.toList.map (·.name)

/-- The call stands with its caller. -/
def HasEdge (e : CallEdge) : Prop :=
  ∃ m, g.methods[e.caller]? = some m ∧ e ∈ m.forward

instance (e : CallEdge) : Decidable (g.HasEdge e) :=
  inferInstanceAs (Decidable (∃ m ∈ g.methods[e.caller]?, e ∈ m.forward))

variable {g}

theorem nameOf?_eq (id : MethodId) : g.nameOf? id = g.methodList[id]? := by
  simp [nameOf?, methodList]

theorem nameOf?_of_getElem? {i : MethodId} {m : MethodNode} (hm : g.methods[i]? = some m) :
    g.nameOf? i = some m.name := by
  rw [nameOf?, hm, Option.map_some]

theorem HasEdge.caller_lt {e : CallEdge} (h : g.HasEdge e) : e.caller < g.methods.size := by
  obtain ⟨m, hm, -⟩ := h
  exact (Array.getElem?_eq_some_iff.1 hm).1

end CallGraph

/-- Classes and methods are numbered by position, and found by name. -/
structure CallGraph.NamesAgree (g : CallGraph) : Prop where
  /-- The index has the classes in their order, each under its name. -/
  classIndex : g.classIndex.toList = g.classes.toList.map fun c => ⟨c.name, c.id⟩
  /-- A class bears the number of its position. -/
  classId : ∀ {i : ClassId} {c : ClassNode}, g.classes[i]? = some c → c.id = i
  /-- No two classes have one name. -/
  className : ∀ {i j : ClassId} {c d : ClassNode}, g.classes[i]? = some c → g.classes[j]? = some d →
    c.name = d.name → i = j
  /-- A method bears the number of its position. -/
  methodId : ∀ {i : MethodId} {m : MethodNode}, g.methods[i]? = some m → m.id = i
  /-- The class of a method is there, under the name that the method gives it. -/
  owner : ∀ {i : MethodId} {m : MethodNode}, g.methods[i]? = some m →
    ∃ c, g.classes[m.classId]? = some c ∧ c.name = m.name.className
  /-- The table of a class has a signature once. -/
  signatures : ∀ {i : ClassId} {c : ClassNode}, g.classes[i]? = some c →
    (c.members.map (·.signature)).Nodup
  /-- The table of a class has the methods of that class, each under its signature. -/
  members : ∀ {i : ClassId} {c : ClassNode}, g.classes[i]? = some c → ∀ x : Member, x ∈ c.members ↔
    ∃ m, g.methods[x.id]? = some m ∧ m.classId = i ∧ m.name.signature = x.signature

/-- A call stands at both of its ends, once each, and all calls are counted. -/
structure CallGraph.CallsAgree (g : CallGraph) : Prop where
  /-- A call stands with the method that it names as its caller. -/
  caller : ∀ {i : MethodId} {m : MethodNode}, g.methods[i]? = some m → ∀ e ∈ m.forward, e.caller = i
  /-- The method that a call names as the one called is there. -/
  callee_lt : ∀ {e : CallEdge}, g.HasEdge e → e.callee < g.methods.size
  /-- The calls that reach a method are those that name it as the one called. -/
  reverse : ∀ {i : MethodId} {m : MethodNode}, g.methods[i]? = some m → ∀ e : CallEdge,
    e ∈ m.reverse ↔ e.callee = i ∧ g.HasEdge e
  forward_nodup : ∀ {i : MethodId} {m : MethodNode}, g.methods[i]? = some m → m.forward.Nodup
  reverse_nodup : ∀ {i : MethodId} {m : MethodNode}, g.methods[i]? = some m → m.reverse.Nodup
  numEdges_forward : (g.methods.toList.map (·.forward.length)).sum = g.numEdges
  numEdges_reverse : (g.methods.toList.map (·.reverse.length)).sum = g.numEdges

/-- Entry points are methods of the graph, once each, and the set has them too. -/
structure CallGraph.EntriesAgree (g : CallGraph) : Prop where
  entryIds : g.entryIds.Perm g.entrypoints.toList
  entrypoints_nodup : g.entrypoints.toList.Nodup
  entrypoints_lt : ∀ id ∈ g.entrypoints, id < g.methods.size

/-- What a graph says twice agrees. -/
structure CallGraph.WellFormed (g : CallGraph) : Prop extends
  g.NamesAgree, g.CallsAgree, g.EntriesAgree

/-! ## Calls -/

namespace CallGraph.CallsAgree

variable {g : CallGraph}

theorem mem_forward_iff_hasEdge (h : g.CallsAgree) {i : MethodId} {m : MethodNode}
    (hm : g.methods[i]? = some m) {e : CallEdge} : e ∈ m.forward ↔ e.caller = i ∧ g.HasEdge e := by
  constructor
  · intro he
    obtain rfl := h.caller hm e he
    exact ⟨rfl, m, hm, he⟩
  · rintro ⟨rfl, n, hn, he⟩
    rw [hm] at hn
    cases hn
    exact he

/-- A method makes the calls that name it as caller and reach the method called. -/
theorem mem_forward_iff (h : g.CallsAgree) {i : MethodId} {m : MethodNode}
    (hm : g.methods[i]? = some m) {e : CallEdge} :
    e ∈ m.forward ↔ e.caller = i ∧ ∃ n, g.methods[e.callee]? = some n ∧ e ∈ n.reverse := by
  rw [h.mem_forward_iff_hasEdge hm]
  refine and_congr_right fun _ => ⟨fun he => ?_, ?_⟩
  · have hn := Array.getElem?_eq_getElem (h.callee_lt he)
    exact ⟨_, hn, (h.reverse hn e).2 ⟨rfl, he⟩⟩
  · rintro ⟨n, hn, he⟩
    exact ((h.reverse hn e).1 he).2

/-- The calls that reach a method are those that name it and stand with their caller. -/
theorem mem_reverse_iff (h : g.CallsAgree) {i : MethodId} {m : MethodNode}
    (hm : g.methods[i]? = some m) {e : CallEdge} :
    e ∈ m.reverse ↔ e.callee = i ∧ ∃ n, g.methods[e.caller]? = some n ∧ e ∈ n.forward :=
  h.reverse hm e

end CallGraph.CallsAgree

/-! ## Look-up -/

namespace CallGraph.NamesAgree

variable {g : CallGraph}

/-- The index has the names of the classes. -/
theorem map_classIndex (h : g.NamesAgree) : g.classIndex.toList.map (·.name) = g.classList := by
  rw [h.classIndex, List.map_map, classList]
  rfl

theorem mem_classIndex_iff (h : g.NamesAgree) {x : ClassEntry} :
    x ∈ g.classIndex ↔ ∃ c, g.classes[x.id]? = some c ∧ c.name = x.name := by
  rw [← Array.mem_toList_iff, h.classIndex, List.mem_map]
  constructor
  · rintro ⟨c, hc, rfl⟩
    obtain ⟨i, hi⟩ := Array.mem_iff_getElem?.1 (Array.mem_toList_iff.1 hc)
    obtain rfl := h.classId hi
    exact ⟨c, hi, rfl⟩
  · rintro ⟨c, hc, hname⟩
    refine ⟨c, Array.mem_toList_iff.2 (Array.mem_of_getElem? hc), ?_⟩
    rw [h.classId hc, hname]

theorem nodup_classList (h : g.NamesAgree) : g.classList.Nodup := by
  rw [List.nodup_iff_getElem?_ne_getElem?]
  intro i j hij hj heq
  rw [classList, List.length_map, Array.length_toList] at hj
  have hd := Array.getElem?_eq_getElem hj
  rw [classList, List.getElem?_map, List.getElem?_map, Array.getElem?_toList, Array.getElem?_toList, hd,
    Option.map_some, Option.map_eq_some_iff] at heq
  obtain ⟨c, hc, hname⟩ := heq
  exact Nat.ne_of_lt hij (h.className hc hd hname)

/-- The names listed are those of the classes. -/
theorem classNames_perm (h : g.NamesAgree) : g.classNames.Perm g.classList := by
  rw [classNames, h.map_classIndex]
  exact Text.ascending_perm _ _

theorem length_classNames (h : g.NamesAgree) : g.classNames.length = g.classes.size := by
  rw [h.classNames_perm.length_eq, classList, List.length_map, Array.length_toList]

end CallGraph.NamesAgree

namespace CallGraph.EntriesAgree

variable {g : CallGraph}

theorem mem_entryIds_iff (h : g.EntriesAgree) {id : MethodId} : id ∈ g.entryIds ↔ id ∈ g.entrypoints := by
  rw [h.entryIds.mem_iff, Array.mem_toList_iff]

/-- The set answers for the entry points. -/
theorem isEntrypoint_iff (h : g.EntriesAgree) {id : MethodId} : g.isEntrypoint id ↔ id ∈ g.entrypoints := by
  rw [isEntrypoint, List.contains_iff_mem, h.mem_entryIds_iff]

end CallGraph.EntriesAgree

namespace CallGraph.WellFormed

variable {g : CallGraph}

theorem classId_lt (h : g.WellFormed) {i : MethodId} {m : MethodNode} (hm : g.methods[i]? = some m) :
    m.classId < g.classes.size := by
  obtain ⟨c, hc, -⟩ := h.owner hm
  exact (Array.getElem?_eq_some_iff.1 hc).1

theorem class?_eq_some_iff (h : g.WellFormed) {name : String} {c : ClassNode} :
    g.class? name = some c ↔ ∃ i : ClassId, g.classes[i]? = some c ∧ c.name = name := by
  rw [class?, Option.bind_eq_some_iff]
  constructor
  · rintro ⟨x, hx, hc⟩
    obtain rfl : x.name = name := by simpa using Array.find?_some hx
    obtain ⟨d, hd, hname⟩ := h.mem_classIndex_iff.1 (Array.mem_of_find?_eq_some hx)
    obtain rfl : d = c := Option.some.inj (hd.symm.trans hc)
    exact ⟨x.id, hc, hname⟩
  · rintro ⟨i, hi, rfl⟩
    have hmem : (⟨c.name, i⟩ : ClassEntry) ∈ g.classIndex := h.mem_classIndex_iff.2 ⟨c, hi, rfl⟩
    cases hx : g.classIndex.find? fun x => x.name == c.name with
    | none => simpa using Array.find?_eq_none.1 hx _ hmem
    | some x =>
      -- The index has no other class of that name.
      have hname : x.name = c.name := by simpa using Array.find?_some hx
      obtain ⟨d, hd, hdname⟩ := h.mem_classIndex_iff.1 (Array.mem_of_find?_eq_some hx)
      obtain rfl : x.id = i := h.className hd hi (hdname.trans hname)
      exact ⟨x, rfl, hi⟩

theorem class?_eq_none_iff (h : g.WellFormed) {name : String} : g.class? name = none ↔ name ∉ g.classList := by
  rw [Option.eq_none_iff_forall_ne_some, classList, List.mem_map, not_exists]
  refine forall_congr' fun c => not_congr ?_
  rw [h.class?_eq_some_iff, Array.mem_toList_iff, Array.mem_iff_getElem?, exists_and_right]

/-- The table of a class answers with the methods of that class, each under its signature. -/
theorem find?_eq_some_iff (h : g.WellFormed) {i : ClassId} {c : ClassNode}
    (hc : g.classes[i]? = some c) {signature : String} {id : MethodId} :
    c.find? signature = some id ↔
      ∃ m, g.methods[id]? = some m ∧ m.classId = i ∧ m.name.signature = signature := by
  rw [← h.members hc ⟨signature, id⟩, ClassNode.find?, Option.map_eq_some_iff]
  constructor
  · rintro ⟨⟨s, n⟩, hfind, rfl⟩
    have hs : s = signature := by simpa using List.find?_some hfind
    rw [← hs]
    exact List.mem_of_find?_eq_some hfind
  · intro hmem
    cases hfind : c.members.find? fun m => m.signature == signature with
    | none => simpa using List.find?_eq_none.1 hfind _ hmem
    | some x =>
      have hx : x.signature = signature := by simpa using List.find?_some hfind
      have := List.inj_on_of_nodup_map (h.signatures hc) (List.mem_of_find?_eq_some hfind) hmem hx
      exact ⟨x, rfl, by rw [this]⟩

/-- A name leads to the method that bears it. -/
theorem methodId?_eq_some_iff (h : g.WellFormed) {name : MethodName} {id : MethodId} :
    g.methodId? name = some id ↔ g.nameOf? id = some name := by
  rw [CallGraph.methodId?, Option.bind_eq_some_iff, CallGraph.nameOf?, Option.map_eq_some_iff]
  constructor
  · rintro ⟨c, hc, hid⟩
    obtain ⟨i, hi, hname⟩ := h.class?_eq_some_iff.1 hc
    obtain ⟨m, hm, hclass, hsig⟩ := (h.find?_eq_some_iff hi).1 hid
    obtain ⟨d, hd, hdname⟩ := h.owner hm
    rw [hclass, hi] at hd
    cases hd
    refine ⟨m, hm, ?_⟩
    show (⟨m.name.className, m.name.signature⟩ : MethodName) = ⟨name.className, name.signature⟩
    rw [hsig, ← hname, hdname]
  · rintro ⟨m, hm, rfl⟩
    obtain ⟨c, hc, hname⟩ := h.owner hm
    exact ⟨c, h.class?_eq_some_iff.2 ⟨_, hc, hname⟩, (h.find?_eq_some_iff hc).2 ⟨m, hm, rfl, rfl⟩⟩

/-- No two methods have one name. -/
theorem nameOf?_injective (h : g.WellFormed) {i j : MethodId} {name : MethodName}
    (hi : g.nameOf? i = some name) (hj : g.nameOf? j = some name) : i = j := by
  rw [← h.methodId?_eq_some_iff] at hi hj
  rw [hi] at hj
  exact Option.some.inj hj

theorem methodId?_eq_none_iff (h : g.WellFormed) {name : MethodName} :
    g.methodId? name = none ↔ name ∉ g.methodList := by
  rw [Option.eq_none_iff_forall_ne_some, List.mem_iff_getElem?, not_exists]
  refine forall_congr' fun id => not_congr ?_
  rw [h.methodId?_eq_some_iff, nameOf?_eq]

theorem empty : ({} : CallGraph).WellFormed := by
  constructor <;> constructor <;> simp [CallGraph.HasEdge]

end CallGraph.WellFormed

end CallAtlas.Graph
