import CallAtlas.Proofs.Graph.Names
import CallAtlas.Proofs.Graph.Runs
import CallAtlas.Proofs.Graph.Walks

/-!
# Listings of calls

A method lists the calls that it makes and, with their types inverted, those that reach it; a class lists
its methods with the numbers of these calls.

* `invertCallType_injective`: no two call types have one inversion, whatever the texts are.
* `CallGraph.refs`: the two listings of a method as one function of the direction;
  `WellFormed.mem_refs_iff`, `WellFormed.length_refs`, `WellFormed.ascends_refs`: it has each call once, in
  strictly ascending order.
* `WellFormed.mem_classMethods_iff`, `WellFormed.ascends_classMethods`: a class lists its methods once each, in
  strictly ascending order.
* `listings_mirrored`: what one method lists as made, the other one lists as received.
-/

namespace CallAtlas.Text

variable {α : Type}

/-- The keys ascend strictly from item to item. -/
def Ascends (key : α → List String) (items : List α) : Prop :=
  items.Pairwise fun a b => leKey (key a) (key b) = true ∧ key a ≠ key b

/-- Items with different keys ascend strictly once they are in order. -/
theorem ascends_ascending {key : α → List String} {items : List α} (h : (items.map key).Nodup) :
    Ascends key (ascending key items) := by
  have hnodup : ((ascending key items).map key).Nodup :=
    ((ascending_perm key items).map key).nodup_iff.2 h
  exact (pairwise_ascending key items).and (List.pairwise_map.1 hnodup)

theorem Ascends.nodup {key : α → List String} {items : List α} (h : Ascends key items) :
    items.Nodup := by
  refine h.imp fun hab => ?_
  rintro rfl
  exact hab.2 rfl

end CallAtlas.Text

namespace CallAtlas.Graph

open Text (Ascends ascending)
open Trace (NamedCall)

/-! ## Inverted call types -/

theorem Relation.phrase_of_ofPhrase? {callType : String} {r : Relation}
    (h : ofPhrase? callType = some r) : r.phrase = callType := by
  simpa using List.find?_some h

theorem Relation.inverse_injective {r s : Relation} (h : r.inverse = s.inverse) : r = s := by
  cases r <;> cases s <;> simp_all [inverse]

/-- The inversion of a known call type is not that of an unknown one. -/
theorem Relation.inverse_ne_marked (r : Relation) (callType : String) :
    r.inverse ≠ "REV(" ++ callType ++ ")" := by
  intro h
  have hhead := congrArg (fun s => s.toList.head?) h
  cases r <;> simp [inverse] at hhead

/-- **Inverting a call type loses nothing.** -/
theorem invertCallType_injective {t u : String} (h : invertCallType t = invertCallType u) : t = u := by
  unfold invertCallType at h
  cases ht : Relation.ofPhrase? t with
  | some r =>
    cases hu : Relation.ofPhrase? u with
    | some s =>
      rw [ht, hu] at h
      rw [← Relation.phrase_of_ofPhrase? ht, ← Relation.phrase_of_ofPhrase? hu, Relation.inverse_injective h]
    | none =>
      rw [ht, hu] at h
      exact absurd h (r.inverse_ne_marked u)
  | none =>
    cases hu : Relation.ofPhrase? u with
    | some s =>
      rw [ht, hu] at h
      exact absurd h.symm (s.inverse_ne_marked t)
    | none =>
      rw [ht, hu] at h
      simpa [← String.toList_inj] using h

/-! ## The calls of a method -/

theorem CallRef.key_injective {r s : CallRef} (h : r.key = s.key) : r = s := by
  obtain ⟨t, c, n⟩ := r
  obtain ⟨t', c', n'⟩ := s
  simp only [CallRef.key, List.cons.injEq, and_true] at h
  rw [h.1, h.2.1, h.2.2]

/-- A call of that type from one method, or to it, as the direction is. -/
def Direction.call (d : Direction) (callType : String) (name other : MethodName) : NamedCall :=
  match d with
  | .callees => ⟨callType, name, other⟩
  | .callers => ⟨callType, other, name⟩

theorem Direction.edge_ext {d : Direction} {e e' : CallEdge} (htype : e.callType = e'.callType)
    (hsource : d.source e = d.source e') (htarget : d.target e = d.target e') : e = e' := by
  obtain ⟨t, a, b⟩ := e
  obtain ⟨t', a', b'⟩ := e'
  cases d <;> cases htype <;> cases hsource <;> cases htarget <;> rfl

namespace CallGraph

/-- The calls to follow from a method, each with its type as `phrase` has it and the method that it leads
to. -/
def refs (g : CallGraph) (d : Direction) (phrase : String → String) (m : MethodNode) : List CallRef :=
  ascending CallRef.key <|
    (d.edges m).filterMap fun e => (g.nameOf? (d.target e)).map fun name => ⟨phrase e.callType, name⟩

theorem forwardRefs_eq_refs (g : CallGraph) (m : MethodNode) :
    g.forwardRefs m = g.refs .callees id m :=
  rfl

theorem reverseRefs_eq_refs (g : CallGraph) (m : MethodNode) :
    g.reverseRefs m = g.refs .callers invertCallType m :=
  rfl

/-- The methods listed are of the graph. -/
theorem mem_methodList_of_mem_refs {g : CallGraph} {d : Direction} {phrase : String → String}
    {m : MethodNode} {r : CallRef} (hr : r ∈ g.refs d phrase m) : r.method ∈ g.methodList := by
  rw [refs, Text.mem_ascending, List.mem_filterMap] at hr
  obtain ⟨e, -, hr⟩ := hr
  obtain ⟨name, hname, rfl⟩ := Option.map_eq_some_iff.1 hr
  exact mem_methodList_of_nameOf? hname

namespace WellFormed

variable {g : CallGraph} {d : Direction} {phrase : String → String} {i : MethodId} {m : MethodNode}

/-- Each call to follow gives one entry, as the method that it leads to is there. -/
private theorem filterMap_edges (h : g.WellFormed) (hm : g.methods[i]? = some m) :
    ((d.edges m).filterMap fun e =>
        (g.nameOf? (d.target e)).map fun name => (⟨phrase e.callType, name⟩ : CallRef)) =
      (d.edges m).map fun e => ⟨phrase e.callType, (g.nameOf? (d.target e)).getD default⟩ := by
  rw [← List.filterMap_eq_map]
  refine List.filterMap_congr fun e he => ?_
  obtain ⟨name, hname⟩ := exists_nameOf?_eq_some (h.target_lt ⟨m, hm, he⟩)
  simp [hname]

/-- The listing has one entry for each call to follow. -/
theorem refs_perm (h : g.WellFormed) (hm : g.methods[i]? = some m) :
    (g.refs d phrase m).Perm
      ((d.edges m).map fun e => ⟨phrase e.callType, (g.nameOf? (d.target e)).getD default⟩) := by
  rw [refs, h.filterMap_edges hm]
  exact Text.ascending_perm _ _

/-- The listing has as many entries as there are calls to follow. -/
theorem length_refs (h : g.WellFormed) (hm : g.methods[i]? = some m) :
    (g.refs d phrase m).length = (d.edges m).length := by
  rw [refs, Text.length_ascending, h.filterMap_edges hm, List.length_map]

theorem length_forwardRefs (h : g.WellFormed) (hm : g.methods[i]? = some m) :
    (g.forwardRefs m).length = m.forward.length := by
  rw [forwardRefs_eq_refs, h.length_refs hm]
  rfl

theorem length_reverseRefs (h : g.WellFormed) (hm : g.methods[i]? = some m) :
    (g.reverseRefs m).length = m.reverse.length := by
  rw [reverseRefs_eq_refs, h.length_refs hm]
  rfl

/-- The listing has the calls of the graph that can be followed from the method, by names. -/
theorem mem_refs_iff (h : g.WellFormed) (hm : g.methods[i]? = some m) {r : CallRef} :
    r ∈ g.refs d phrase m ↔ ∃ t, phrase t = r.callType ∧ g.Calls (d.call t m.name r.method) := by
  have hname : g.nameOf? i = some m.name := nameOf?_of_getElem? hm
  have hstep : ∀ e, e ∈ d.edges m ↔ d.source e = i ∧ g.HasEdge e := by
    intro e
    rw [← h.step_iff]
    constructor
    · exact fun he => ⟨m, hm, he⟩
    · rintro ⟨n, hn, he⟩
      rw [hm] at hn
      cases hn
      exact he
  obtain ⟨t, other⟩ := r
  simp only [refs, Text.mem_ascending, List.mem_filterMap, Option.map_eq_some_iff, CallRef.mk.injEq, hstep]
  constructor
  · rintro ⟨e, ⟨rfl, he⟩, _, hother, rfl, rfl⟩
    refine ⟨e.callType, rfl, e, he, ?_⟩
    cases d
    exacts [⟨rfl, hname, hother⟩, ⟨rfl, hother, hname⟩]
  · rintro ⟨t, rfl, e, he, hcall⟩
    cases d with
    | callees =>
      obtain ⟨rfl, hcaller, hcallee⟩ := hcall
      exact ⟨e, ⟨h.nameOf?_injective hcaller hname, he⟩, other, hcallee, rfl, rfl⟩
    | callers =>
      obtain ⟨rfl, hcaller, hcallee⟩ := hcall
      exact ⟨e, ⟨h.nameOf?_injective hcallee hname, he⟩, other, hcaller, rfl, rfl⟩

/-- The listing ascends strictly, so it has each call once. -/
theorem ascends_refs (h : g.WellFormed) (hphrase : ∀ {t u}, phrase t = phrase u → t = u)
    (hm : g.methods[i]? = some m) : Ascends CallRef.key (g.refs d phrase m) := by
  refine Text.ascends_ascending ?_
  rw [h.filterMap_edges hm, List.map_map]
  refine (h.edges_nodup hm).map_on fun e he e' he' heq => ?_
  have hstep : g.Step d i e := ⟨m, hm, he⟩
  have hstep' : g.Step d i e' := ⟨m, hm, he'⟩
  obtain ⟨name, hname⟩ := exists_nameOf?_eq_some (h.target_lt hstep)
  obtain ⟨name', hname'⟩ := exists_nameOf?_eq_some (h.target_lt hstep')
  have hrefs := CallRef.key_injective heq
  simp only [hname, hname', Option.getD_some, CallRef.mk.injEq] at hrefs
  obtain ⟨htype, rfl⟩ := hrefs
  exact d.edge_ext (hphrase htype) ((h.step_iff.1 hstep).1.trans (h.step_iff.1 hstep').1.symm)
    (h.nameOf?_injective hname hname')

theorem ascends_forwardRefs (h : g.WellFormed) (hm : g.methods[i]? = some m) :
    Ascends CallRef.key (g.forwardRefs m) := by
  rw [forwardRefs_eq_refs]
  exact h.ascends_refs id hm

theorem ascends_reverseRefs (h : g.WellFormed) (hm : g.methods[i]? = some m) :
    Ascends CallRef.key (g.reverseRefs m) := by
  rw [reverseRefs_eq_refs]
  exact h.ascends_refs invertCallType_injective hm

theorem mem_forwardRefs_iff (h : g.WellFormed) (hm : g.methods[i]? = some m) {t : String}
    {other : MethodName} : ⟨t, other⟩ ∈ g.forwardRefs m ↔ g.Calls ⟨t, m.name, other⟩ := by
  rw [forwardRefs_eq_refs, h.mem_refs_iff hm]
  exact ⟨fun ⟨_, rfl, hc⟩ => hc, fun hc => ⟨t, rfl, hc⟩⟩

/-- A call received is listed under its inverted type, from which its type can be told. -/
theorem mem_reverseRefs_iff (h : g.WellFormed) (hm : g.methods[i]? = some m) {t : String}
    {other : MethodName} :
    ⟨invertCallType t, other⟩ ∈ g.reverseRefs m ↔ g.Calls ⟨t, other, m.name⟩ := by
  rw [reverseRefs_eq_refs, h.mem_refs_iff hm]
  constructor
  · rintro ⟨u, hu, hc⟩
    rwa [invertCallType_injective hu] at hc
  · exact fun hc => ⟨t, rfl, hc⟩

/-! ## Answers -/

/-- A name of the graph is answered with the listings of the method that bears it. -/
theorem methodInfo?_eq_some_iff (h : g.WellFormed) {name : MethodName} {info : MethodInfo} :
    g.methodInfo? name = some info ↔ ∃ (i : MethodId) (m : MethodNode), g.methods[i]? = some m ∧
      m.name = name ∧ info = ⟨name, g.forwardRefs m, g.reverseRefs m⟩ := by
  simp only [methodInfo?, method?, Option.map_eq_some_iff, Option.bind_eq_some_iff,
    h.methodId?_eq_some_iff]
  constructor
  · rintro ⟨m, ⟨i, hname, hm⟩, rfl⟩
    rw [nameOf?, hm, Option.map_some, Option.some.injEq] at hname
    exact ⟨i, m, hm, hname, by rw [hname]⟩
  · rintro ⟨i, m, hm, rfl, rfl⟩
    exact ⟨m, ⟨i, nameOf?_of_getElem? hm, hm⟩, rfl⟩

section

variable {k : ClassId} {c : ClassNode}

/-- The table of a class has the names of the graph that are in that class. -/
theorem mem_members_iff (h : g.WellFormed) (hc : g.classes[k]? = some c) {signature : String}
    {id : MethodId} : (⟨signature, id⟩ : Member) ∈ c.members ↔
      ∃ m, g.methods[id]? = some m ∧ m.name = ⟨c.name, signature⟩ := by
  rw [h.members hc]
  refine exists_congr fun m => and_congr_right fun hm => ?_
  obtain ⟨d, hd, hname⟩ := h.owner hm
  constructor
  · rintro ⟨rfl, rfl⟩
    rw [hc] at hd
    cases hd
    rw [hname]
  · intro heq
    rw [heq] at hname
    exact ⟨h.className hd hc hname, by rw [heq]⟩

theorem ascends_sortedMembers (h : g.WellFormed) (hc : g.classes[k]? = some c) :
    Ascends (fun x => [x.signature]) c.sortedMembers := by
  refine Text.ascends_ascending ?_
  have hsingle := (h.signatures hc).map (f := fun s => [s]) fun s t hst => List.singleton_inj.1 hst
  rwa [List.map_map] at hsingle

/-- What a member of the table is answered with. -/
private theorem exists_of_summary? (h : g.WellFormed) (hc : g.classes[k]? = some c) {x : Member}
    (hx : x ∈ c.members) {s : MethodSummary} (hs : g.summary? x.id = some s) :
    ∃ m, g.methods[x.id]? = some m ∧ m.name = ⟨c.name, x.signature⟩ ∧
      s = ⟨x.signature, m.forward.length, m.reverse.length⟩ := by
  obtain ⟨m, hm, hname⟩ := (h.mem_members_iff hc).1 hx
  rw [summary?, hm, Option.map_some, Option.some.injEq, hname] at hs
  exact ⟨m, hm, hname, hs.symm⟩

/-- The methods of a class are those of the graph that are in it, each with the numbers of its calls. -/
theorem mem_classMethods_iff (h : g.WellFormed) (hc : g.classes[k]? = some c) {s : MethodSummary} :
    s ∈ g.classMethods c ↔ ∃ (i : MethodId) (m : MethodNode), g.methods[i]? = some m ∧
      m.name = ⟨c.name, s.signature⟩ ∧ m.forward.length = s.forwardCount ∧
      m.reverse.length = s.reverseCount := by
  rw [classMethods, List.mem_filterMap]
  constructor
  · rintro ⟨x, hx, hs⟩
    obtain ⟨m, hm, hname, rfl⟩ := h.exists_of_summary? hc (Text.mem_ascending.1 hx) hs
    exact ⟨x.id, m, hm, hname, rfl, rfl⟩
  · rintro ⟨i, m, hm, hname, hforward, hreverse⟩
    refine ⟨⟨s.signature, i⟩, Text.mem_ascending.2 ((h.mem_members_iff hc).2 ⟨m, hm, hname⟩), ?_⟩
    rw [summary?, hm, Option.map_some, hname, hforward, hreverse]

theorem ascends_classMethods (h : g.WellFormed) (hc : g.classes[k]? = some c) :
    Ascends (fun s => [s.signature]) (g.classMethods c) := by
  refine List.pairwise_filterMap.2 ((h.ascends_sortedMembers hc).imp_of_mem ?_)
  intro x y hx hy hxy s hs t ht
  obtain ⟨-, -, -, rfl⟩ := h.exists_of_summary? hc (Text.mem_ascending.1 hx) hs
  obtain ⟨-, -, -, rfl⟩ := h.exists_of_summary? hc (Text.mem_ascending.1 hy) ht
  exact hxy

theorem classInfo?_of_mem (h : g.WellFormed) (hc : c ∈ g.classes) :
    g.classInfo? c.name = some ⟨c.name, g.classMethods c⟩ := by
  rw [classInfo?, h.class?_eq_some_iff_mem.2 ⟨hc, rfl⟩, Option.map_some]

theorem methodsOf?_of_mem (h : g.WellFormed) (hc : c ∈ g.classes) :
    g.methodsOf? c.name = some (g.classMethods c) := by
  rw [methodsOf?, h.class?_eq_some_iff_mem.2 ⟨hc, rfl⟩, Option.map_some]

end

end WellFormed

/-- **What one method lists as made, the other one lists as received.** After every run of changes: each
method of the graph is answered with two listings that have its calls once each and ascend strictly by
type, class and signature; a call of type `t` from one method to another stands in the first one's listing
of calls made exactly if it stands, with `t` inverted, in the other one's listing of calls received, and
exactly if the graph has it. Each class is answered with all its methods, strictly ascending by signature,
and with the lengths of their listings. -/
theorem listings_mirrored (changes : List Change) :
    let g := ({} : CallGraph).after changes
    (∀ name ∈ g.methodList, ∃ info m, g.methodInfo? name = some info ∧ g.method? name = some m ∧
      info.method = name ∧
      Ascends CallRef.key info.forward ∧ info.forward.length = m.forward.length ∧
      Ascends CallRef.key info.reverse ∧ info.reverse.length = m.reverse.length ∧
      info.forward.Nodup ∧ info.reverse.Nodup) ∧
    (∀ a ∈ g.methodList, ∀ b ∈ g.methodList, ∃ infoA infoB,
      g.methodInfo? a = some infoA ∧ g.methodInfo? b = some infoB ∧ ∀ t,
        (⟨t, b⟩ ∈ infoA.forward ↔ ⟨invertCallType t, a⟩ ∈ infoB.reverse) ∧
        (⟨t, b⟩ ∈ infoA.forward ↔ g.Calls ⟨t, a, b⟩)) ∧
    (∀ c ∈ g.classes, ∃ info, g.classInfo? c.name = some info ∧ info.name = c.name ∧
      g.methodsOf? c.name = some info.methods ∧
      Ascends (fun s => [s.signature]) info.methods ∧
      (∀ signature, signature ∈ info.methods.map (·.signature) ↔ ⟨c.name, signature⟩ ∈ g.methodList) ∧
      ∀ s ∈ info.methods, ∃ method, g.methodInfo? ⟨c.name, s.signature⟩ = some method ∧
        s.forwardCount = method.forward.length ∧ s.reverseCount = method.reverse.length) := by
  intro g
  have h : g.WellFormed := (Tracks.empty.after changes).wellFormed
  refine ⟨fun name hname => ?_, fun a ha b hb => ?_, fun c hc => ?_⟩
  · obtain ⟨i, m, hm, rfl⟩ := mem_methodList_iff.1 hname
    have hforward := h.ascends_forwardRefs hm
    have hreverse := h.ascends_reverseRefs hm
    refine ⟨_, m, h.methodInfo?_eq_some_iff.2 ⟨i, m, hm, rfl, rfl⟩, ?_, rfl, hforward,
      h.length_forwardRefs hm, hreverse, h.length_reverseRefs hm, hforward.nodup, hreverse.nodup⟩
    rw [method?, h.methodId?_eq_some_iff.2 (by rw [nameOf?, hm, Option.map_some]), Option.bind_some, hm]
  · obtain ⟨i, m, hm, rfl⟩ := mem_methodList_iff.1 ha
    obtain ⟨j, n, hn, rfl⟩ := mem_methodList_iff.1 hb
    refine ⟨_, _, h.methodInfo?_eq_some_iff.2 ⟨i, m, hm, rfl, rfl⟩,
      h.methodInfo?_eq_some_iff.2 ⟨j, n, hn, rfl, rfl⟩, fun t => ?_⟩
    rw [h.mem_forwardRefs_iff hm, h.mem_reverseRefs_iff hn]
    exact ⟨.rfl, .rfl⟩
  · obtain ⟨k, hk⟩ := Array.mem_iff_getElem?.1 hc
    refine ⟨_, h.classInfo?_of_mem hc, rfl, h.methodsOf?_of_mem hc, h.ascends_classMethods hk,
      fun signature => ?_, fun s hs => ?_⟩
    · rw [mem_methodList_iff, List.mem_map]
      constructor
      · rintro ⟨s, hs, rfl⟩
        obtain ⟨i, m, hm, hname, -⟩ := (h.mem_classMethods_iff hk).1 hs
        exact ⟨i, m, hm, hname⟩
      · rintro ⟨i, m, hm, hname⟩
        exact ⟨⟨signature, _, _⟩, (h.mem_classMethods_iff hk).2 ⟨i, m, hm, hname, rfl, rfl⟩, rfl⟩
    · obtain ⟨i, m, hm, hname, hforward, hreverse⟩ := (h.mem_classMethods_iff hk).1 hs
      refine ⟨_, h.methodInfo?_eq_some_iff.2 ⟨i, m, hm, hname, rfl⟩, ?_, ?_⟩
      · rw [← hforward, h.length_forwardRefs hm]
      · rw [← hreverse, h.length_reverseRefs hm]

/-- A method that calls itself in a known way, and under the inverted name of that way. -/
theorem listings_mirrored_loop :
    let run : MethodName := ⟨"app.Main", "run()"⟩
    let g := ({} : CallGraph).after [.addClass "app.Main", .addMethod 0 "run()",
      .addEdge ⟨"directly calls", 0, 0⟩, .addEdge ⟨"directly called by", 0, 0⟩]
    let info : MethodInfo := ⟨run, [⟨"directly called by", run⟩, ⟨"directly calls", run⟩],
      [⟨"REV(directly called by)", run⟩, ⟨"directly called by", run⟩]⟩
    run ∈ g.methodList ∧ g.methodInfo? run = some info ∧
      Ascends CallRef.key info.forward ∧ Ascends CallRef.key info.reverse ∧
      ∀ t, ⟨t, run⟩ ∈ info.forward ↔ ⟨invertCallType t, run⟩ ∈ info.reverse := by
  intro run g info
  have hrun : run ∈ g.methodList := by decide +kernel
  have hinfo : g.methodInfo? run = some info := by decide +kernel
  obtain ⟨hanswers, hmirror, -⟩ := listings_mirrored [.addClass "app.Main", .addMethod 0 "run()",
    .addEdge ⟨"directly calls", 0, 0⟩, .addEdge ⟨"directly called by", 0, 0⟩]
  obtain ⟨i, m, hi, -, -, hforward, -, hreverse, -⟩ := hanswers run hrun
  obtain ⟨a, b, ha, hb, hcalls⟩ := hmirror run hrun run hrun
  obtain rfl : i = info := Option.some.inj (hi.symm.trans hinfo)
  obtain rfl : a = info := Option.some.inj (ha.symm.trans hinfo)
  obtain rfl : b = info := Option.some.inj (hb.symm.trans hinfo)
  exact ⟨hrun, hinfo, hforward, hreverse, fun t => (hcalls t).1⟩

end CallGraph

end CallAtlas.Graph
