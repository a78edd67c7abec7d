import CallAtlas.Proofs.Graph.Reading
import CallAtlas.Proofs.Trace.Names

/-!
# Names in a call graph

A graph numbers its methods; what it says does not depend on the numbers.

* `CallGraph.named`: a call with the names of its two methods; `WellFormed.calls_iff`,
  `WellFormed.named_injective`: the calls of a graph by names are those of its calls, once each.
* `CallGraph.Legible`: lines can carry all names of the graph, so that qualified names tell its methods
  apart (`Legible.eq_of_qualified_eq`); `load_legible`: as they can for the graph of a trace.
-/

namespace CallAtlas.Graph

open Trace

namespace CallGraph

/-- The call, with the names of its two methods. -/
def named (g : CallGraph) (e : CallEdge) : NamedCall :=
  ⟨e.callType, (g.nameOf? e.caller).getD default, (g.nameOf? e.callee).getD default⟩

namespace WellFormed

variable {g : CallGraph} {e e' : CallEdge} {i : MethodId} {name : MethodName}

theorem nameOf?_caller (he : g.HasEdge e) : g.nameOf? e.caller = some (g.named e).caller := by
  obtain ⟨name, hname⟩ := exists_nameOf?_eq_some he.caller_lt
  rw [named, hname]
  rfl

theorem nameOf?_callee (h : g.WellFormed) (he : g.HasEdge e) :
    g.nameOf? e.callee = some (g.named e).callee := by
  obtain ⟨name, hname⟩ := exists_nameOf?_eq_some (h.callee_lt he)
  rw [named, hname]
  rfl

theorem calls_iff (h : g.WellFormed) {c : NamedCall} : g.Calls c ↔ ∃ e, g.HasEdge e ∧ g.named e = c := by
  constructor
  · rintro ⟨e, he, htype, hcaller, hcallee⟩
    refine ⟨e, he, ?_⟩
    rw [named, hcaller, hcallee, htype]
    rfl
  · rintro ⟨e, he, rfl⟩
    exact ⟨e, he, rfl, nameOf?_caller he, h.nameOf?_callee he⟩

theorem named_injective (h : g.WellFormed) (he : g.HasEdge e) (he' : g.HasEdge e')
    (heq : g.named e = g.named e') : e = e' := by
  have hcaller := h.nameOf?_injective (nameOf?_caller he) (heq ▸ nameOf?_caller he')
  have hcallee := h.nameOf?_injective (h.nameOf?_callee he) (heq ▸ h.nameOf?_callee he')
  have htype : e.callType = e'.callType := congrArg NamedCall.callType heq
  obtain ⟨t, a, b⟩ := e
  obtain ⟨t', a', b'⟩ := e'
  dsimp only at hcaller hcallee htype
  rw [hcaller, hcallee, htype]

/-- A method is one of a list exactly if its name is one of theirs. -/
theorem mem_iff_mem_map_nameOf? (h : g.WellFormed) (hi : g.nameOf? i = some name)
    {path : List MethodId} : i ∈ path ↔ some name ∈ path.map g.nameOf? := by
  constructor
  · intro hmem
    rw [← hi]
    exact List.mem_map_of_mem hmem
  · intro hmem
    obtain ⟨j, hj, hname⟩ := List.mem_map.1 hmem
    rwa [h.nameOf?_injective hi hname]

end WellFormed

end CallGraph

/-! ## Names that lines carry -/

/-- Lines can carry the names and the call types of the graph. -/
structure CallGraph.Legible (g : CallGraph) : Prop extends g.WellFormed where
  callType : ∀ {e : CallEdge}, g.HasEdge e → IsCallType e.callType.toList
  methodName : ∀ {i : MethodId} {name : MethodName}, g.nameOf? i = some name → IsMethodName name

/-- Methods of one qualified name have one name. -/
theorem CallGraph.Legible.eq_of_qualified_eq {g : CallGraph} (h : g.Legible) {i j : MethodId}
    {name name' : MethodName} (hi : g.nameOf? i = some name) (hj : g.nameOf? j = some name')
    (heq : name.qualified = name'.qualified) : name = name' :=
  (h.methodName hi).eq_of_qualified_eq (h.methodName hj) heq

/-- The names of a trace are names that lines carry. -/
theorem load_legible (lines : List String) : (load lines).graph.Legible := by
  have h := load_isGraphOf lines
  have hread : ∀ r ∈ accepted (startLevel (readable true 1 lines)) (readable true 1 lines),
      ∃ line n, parseLine line n = .ok r := fun r hr =>
    exists_parseLine_of_mem_readable
      ((mem_of_mem_foldl_extend hr).resolve_left List.not_mem_nil)
  refine ⟨h.wellFormed, fun {e} he => ?_, fun {i name} hname => ?_⟩
  · have hcalls := h.wellFormed.calls_iff.2 ⟨e, he, rfl⟩
    obtain ⟨before, r, after, j, heq, -, -, hc⟩ := (h.calls _).1 hcalls
    obtain ⟨line, n, hr⟩ := hread r (by rw [heq]; simp)
    have htype : e.callType = r.callType := congrArg NamedCall.callType hc
    rw [htype]
    exact isCallType_of_parseLine hr
  · obtain ⟨r, hr, rfl⟩ := h.exists_record hname
    obtain ⟨line, n, hr⟩ := hread r hr
    exact isMethodName_of_parseLine hr

end CallAtlas.Graph
