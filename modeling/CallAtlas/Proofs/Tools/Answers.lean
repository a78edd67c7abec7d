import CallAtlas.Proofs.Browse.Names
import CallAtlas.Proofs.Graph.CallTrees
import CallAtlas.Proofs.Graph.Totals
import CallAtlas.Proofs.Tools.Questions

/-!
# Answers can be asked back

A caller of the tools knows names from their answers only, and asks with these again.

* `Question.mem_methodList_of_mem_names`: an answer names methods of the graph.
* `isAnswered_of_mem`: these are found under their names, since a name that is there as it is is never taken for
  an encoded one.
* `TotalsAgree`, `totalsAgree`: the counts that are reported are what the listings add up to.
* `answers_closed`: both, for the trace of any lines.
-/

namespace CallAtlas

/-! ## Methods by name -/

namespace Graph.CallGraph

variable {g : CallGraph} {d : Direction}

theorem CallsAgree.mem_methodList_of_mem_tree? (hg : g.CallsAgree) {root maxDepth : Int} {t : CallTree}
    (ht : g.tree? d root maxDepth = some t) {v : Visit} (hv : v ∈ t.toList) : v.name ∈ g.methodList := by
  rw [tree?_eq_grow, Option.ite_none_right_eq_some, Option.some.injEq] at ht
  obtain ⟨hroot, rfl⟩ := ht
  simp only [contains, Bool.and_eq_true, decide_eq_true_eq] at hroot
  rw [← CallTree.map_visit_routes] at hv
  obtain ⟨⟨es, s⟩, hs, rfl⟩ := List.mem_map.1 hv
  have hlt : root.toNat < g.methods.size := by omega
  exact mem_methodList_of_nameOf? (visit_of_mem_routes_root hg hlt hs).2.1

theorem name_mem_methodList {n : MethodName} {m : MethodNode} (hm : g.method? n = some m) :
    m.name ∈ g.methodList := by
  obtain ⟨id, -, hm⟩ := Option.bind_eq_some_iff.1 hm
  exact mem_methodList_iff.2 ⟨id, m, hm, rfl⟩

/-- A method is found in a class that is there. -/
theorem isNone_class?_of_method? {n : MethodName} {m : MethodNode} (hm : g.method? n = some m) :
    (g.class? n.className).isNone = false := by
  cases hc : g.class? n.className with
  | some c => rfl
  | none =>
    rw [method?, methodId?, hc] at hm
    cases hm

/-- A name that is there is found. -/
theorem WellFormed.method?_of_mem (h : g.WellFormed) {n : MethodName} (hn : n ∈ g.methodList) :
    ∃ m, g.method? n = some m ∧ g.methods[m.id]? = some m ∧ m.name = n := by
  obtain ⟨i, m, hm, rfl⟩ := mem_methodList_iff.1 hn
  have hid : g.methodId? m.name = some i := h.methodId?_eq_some_iff.2 (nameOf?_of_getElem? hm)
  exact ⟨m, by rw [method?, hid, Option.bind_some, hm], by rw [h.methodId hm, hm], rfl⟩

end Graph.CallGraph

/-! ## Answers name what is there -/

namespace Tools

open CallAtlas.Graph Browse

variable {l : Loaded} {g : CallGraph} {n : MethodName} {q : Question}

theorem names_classesAnswer (g : CallGraph) : (classesAnswer g).names = [] := by
  show [] ++ (Json.itemNames (g.classNames.map .str) ++ []) ++ [] = _
  rw [itemNames_str]
  rfl

theorem names_entrypointsAnswer (g : CallGraph) : (entrypointsAnswer g).names = g.entrypointNames := by
  show [] ++ (Json.itemNames (g.entrypointNames.map encodeName) ++ []) ++ [] = _
  rw [itemNames_encodeName]
  simp

theorem mem_methodList_of_mem_class (h : g.WellFormed) {name : String} (hn : n ∈ (classAnswer g name).names) :
    n ∈ g.methodList := by
  unfold classAnswer at hn
  split at hn
  · cases hn
  next info hinfo =>
    obtain ⟨c, hc, -⟩ := Option.map_eq_some_iff.1 hinfo
    obtain ⟨k, hk, rfl⟩ := h.class?_eq_some_iff.1 hc
    obtain rfl := Option.some.inj ((h.classInfo?_of_mem (Array.mem_of_getElem? hk)).symm.trans hinfo)
    rw [names_encodeClass] at hn
    obtain ⟨s, hs, rfl⟩ := List.mem_map.1 hn
    obtain ⟨i, m, hm, hname, -⟩ := (h.mem_classMethods_iff hk).1 hs
    exact CallGraph.mem_methodList_iff.2 ⟨i, m, hm, hname⟩

theorem mem_methodList_of_mem_method {className signature : String}
    (hn : n ∈ (methodAnswer g className signature).names) : n ∈ g.methodList := by
  unfold methodAnswer at hn
  split at hn
  · cases hn
  dsimp only at hn
  split at hn
  · cases hn
  next info hinfo =>
    obtain ⟨m, hm, rfl⟩ := Option.map_eq_some_iff.1 hinfo
    rw [names_encodeMethod, List.mem_cons, List.mem_append, List.mem_map, List.mem_map] at hn
    rcases hn with rfl | ⟨r, hr, rfl⟩ | ⟨r, hr, rfl⟩
    · exact CallGraph.name_mem_methodList hm
    · exact CallGraph.mem_methodList_of_mem_refs (g.forwardRefs_eq_refs m ▸ hr)
    · exact CallGraph.mem_methodList_of_mem_refs (g.reverseRefs_eq_refs m ▸ hr)

theorem mem_methodList_of_mem_trace (h : g.CallsAgree) {className signature : String} {maxDepth : Int}
    (hn : n ∈ (traceAnswer g className signature maxDepth).names) : n ∈ g.methodList := by
  unfold traceAnswer at hn
  dsimp only at hn
  split at hn
  · cases hn
  rw [names_traceObject, List.mem_flatMap] at hn
  obtain ⟨t, ht, hn⟩ := hn
  obtain ⟨v, hv, rfl⟩ := List.mem_map.1 hn
  rw [List.mem_append, Option.mem_toList, Option.mem_toList] at ht
  rcases ht with ht | ht <;> exact h.mem_methodList_of_mem_tree? ht hv

/-- An answer names methods of the graph. -/
theorem Question.mem_methodList_of_mem_names (h : l.graph.WellFormed) (hn : n ∈ (q.answer l).names) :
    n ∈ l.graph.methodList := by
  cases q with
  | classes =>
    rw [answer, names_classesAnswer] at hn
    cases hn
  | entrypoints =>
    rw [answer, names_entrypointsAnswer] at hn
    exact CallGraph.mem_methodList_of_mem_entrypointNames hn
  | classMethods name => exact mem_methodList_of_mem_class h hn
  | method name => exact mem_methodList_of_mem_method hn
  | trace name maxDepth => exact mem_methodList_of_mem_trace h.toCallsAgree hn
  | stats =>
    rw [answer, names_statsAnswer] at hn
    cases hn

/-! ## What is there is answered -/

section

variable {className signature : String} {m : MethodNode}

/-- The method that is meant is answered for. -/
theorem methodAnswer_of_found (hm : g.method? ⟨className, lookup g className signature⟩ = some m) :
    methodAnswer g className signature = encodeMethod ⟨m.name, g.forwardRefs m, g.reverseRefs m⟩ := by
  have hclass : (g.class? className).isNone = false := CallGraph.isNone_class?_of_method? hm
  rw [methodAnswer, hclass, if_neg Bool.false_ne_true]
  dsimp only
  rw [CallGraph.methodInfo?, hm]
  rfl

theorem traceAnswer_of_found (hm : g.method? ⟨className, lookup g className signature⟩ = some m) (maxDepth : Int) :
    traceAnswer g className signature maxDepth = traceObject g m maxDepth := by
  unfold traceAnswer
  dsimp only
  rw [hm]

end

/-- A signature that is there as it is is not decoded. -/
theorem lookup_of_mem (h : g.WellFormed) (hn : n ∈ g.methodList) : lookup g n.className n.signature = n.signature := by
  obtain ⟨m, hm, -⟩ := h.method?_of_mem hn
  unfold lookup
  rw [hm]

theorem method?_lookup_of_mem (h : g.WellFormed) (hn : n ∈ g.methodList) :
    ∃ m, g.method? ⟨n.className, lookup g n.className n.signature⟩ = some m ∧ g.methods[m.id]? = some m ∧
      m.name = n := by
  rw [lookup_of_mem h hn]
  exact h.method?_of_mem hn

/-- The tools answer for the class, under its name. -/
def IsClassAnswered (l : Loaded) (name : String) : Prop :=
  ∃ v, dispatch l "calltree_class" [("class_name", .str name)] = .ok v ∧ v.member? "error" = none ∧
    v.textAt? "name" = some name

/-- The tools answer for the method, under its class and signature, whatever the limit of depth is. -/
structure IsAnswered (l : Loaded) (n : MethodName) : Prop where
  method : ∃ v, dispatch l "calltree_method" (nameArguments n) = .ok v ∧ v.member? "error" = none ∧
    v.methodName? = some n
  trace : ∀ maxDepth : Option Int, ∃ v,
    dispatch l "calltree_trace" (Question.trace n maxDepth).arguments = .ok v ∧
    v.member? "error" = none ∧ v.textAt? "start" = some n.qualified ∧
    (0 ≤ maxDepth.getD defaultDepth → ∀ side ∈ ["callers", "callees"],
      (v.member? side).bind Json.methodName? = some n)

theorem isClassAnswered_of_mem (h : l.graph.WellFormed) {name : String} (hname : name ∈ l.graph.classList) :
    IsClassAnswered l name := by
  obtain ⟨c, hc, rfl⟩ := List.mem_map.1 hname
  refine ⟨_, dispatch_question l (.classMethods c.name), ?_⟩
  rw [Question.answer, classAnswer, h.classInfo?_of_mem (Array.mem_toList_iff.1 hc)]
  exact ⟨rfl, rfl⟩

theorem isAnswered_of_mem (h : l.graph.WellFormed) (hn : n ∈ l.graph.methodList) : IsAnswered l n where
  method := by
    obtain ⟨m, hfound, -, rfl⟩ := method?_lookup_of_mem h hn
    refine ⟨_, dispatch_question l (.method m.name), ?_⟩
    rw [Question.answer, methodAnswer_of_found hfound]
    exact ⟨rfl, rfl⟩
  trace maxDepth := by
    obtain ⟨m, hfound, hm, rfl⟩ := method?_lookup_of_mem h hn
    refine ⟨_, dispatch_question l (.trace m.name maxDepth), ?_⟩
    rw [Question.answer, traceAnswer_of_found hfound]
    refine ⟨rfl, rfl, fun hdepth => ?_⟩
    have hid := (Array.getElem?_eq_some_iff.1 hm).1
    have htree : ∀ d inverted, (encodeTree? inverted
        (l.graph.tree? d m.id (maxDepth.getD defaultDepth))).methodName? = some m.name := by
      intro d inverted
      rw [CallGraph.tree?_eq_some hid hdepth, encodeTree?, methodName?_encodeTree, CallGraph.visit_grow,
        CallGraph.visitAt, CallGraph.nameOf?, hm, Option.map_some, Option.getD_some]
    simp only [List.forall_mem_cons, List.not_mem_nil, false_implies, implies_true, and_true]
    exact ⟨htree .callers true, htree .callees false⟩

/-! ## Totals -/

/-- The classes listed. -/
def listedClasses (l : Loaded) : List String :=
  ((Question.classes.answer l).itemsAt "results").filterMap Json.text?

/-- The answers for the classes listed. -/
def classAnswers (l : Loaded) : List Json :=
  (listedClasses l).map fun name => (Question.classMethods name).answer l

/-- The methods listed in the answers for the classes. -/
def listedMethods (l : Loaded) : List Json :=
  (classAnswers l).flatMap (Json.itemsAt "methods")

/-- The answers for the methods listed. -/
def methodAnswers (l : Loaded) : List Json :=
  ((classAnswers l).flatMap Json.listedNames).map fun n => (Question.method n).answer l

/-- How many entries the members of that name have. -/
def entriesAt (name : String) (vs : List Json) : Nat :=
  (vs.map fun v => (v.itemsAt name).length).sum

/-- The counts reported are what the listings add up to, with so many calls. -/
structure TotalsAgree (l : Loaded) (calls : Nat) : Prop where
  classes : (Question.stats.answer l).countAt? "classes" = some (listedClasses l).length
  methods : (Question.stats.answer l).countAt? "methods" = some (listedMethods l).length
  answers : (methodAnswers l).length = (listedMethods l).length
  edges : (Question.stats.answer l).countAt? "edges" = some calls
  forwardCounts : Json.total? "forward_count" (listedMethods l) = some calls
  reverseCounts : Json.total? "reverse_count" (listedMethods l) = some calls
  forward : entriesAt "forward" (methodAnswers l) = calls
  reverse : entriesAt "reverse" (methodAnswers l) = calls
  entrypoints : (Question.stats.answer l).countAt? "entrypoints" =
    some ((Question.entrypoints.answer l).itemsAt "results").length

theorem listedClasses_eq (l : Loaded) : listedClasses l = l.graph.classNames := by
  show (l.graph.classNames.map Json.str).filterMap Json.text? = _
  rw [List.filterMap_map]
  exact List.filterMap_some

theorem classAnswers_eq (h : l.graph.WellFormed) : classAnswers l = l.graph.classInfos.map encodeClass := by
  rw [classAnswers, listedClasses_eq, CallGraph.classInfos, List.map_filterMap, ← List.filterMap_eq_map]
  refine List.filterMap_congr fun name hname => ?_
  obtain ⟨c, hc, rfl⟩ := List.mem_map.1 (h.classNames_perm.mem_iff.1 hname)
  show some (classAnswer l.graph c.name) = _
  rw [classAnswer, h.classInfo?_of_mem (Array.mem_toList_iff.1 hc)]
  rfl

theorem listedMethods_eq (h : l.graph.WellFormed) :
    listedMethods l = l.graph.entries.map fun x => encodeSummary x.2 := by
  rw [listedMethods, classAnswers_eq h, List.flatMap_map, CallGraph.entries, List.map_flatMap]
  refine List.flatMap_congr fun info _ => ?_
  rw [ClassInfo.entries, List.map_map]
  rfl

theorem listedNames_eq (h : l.graph.WellFormed) :
    (classAnswers l).flatMap Json.listedNames = l.graph.entries.map (·.1) := by
  rw [classAnswers_eq h, List.flatMap_map, CallGraph.entries, List.map_flatMap]
  refine List.flatMap_congr fun info _ => ?_
  rw [listedNames_encodeClass, ClassInfo.entries, List.map_map]
  rfl

/-- A method that is listed has as many calls in its answer as are counted for it. -/
theorem length_itemsAt_of_mem_entries (h : l.graph.WellFormed) {x : MethodName × MethodSummary}
    (hx : x ∈ l.graph.entries) :
    (((Question.method x.1).answer l).itemsAt "forward").length = x.2.forwardCount ∧
      (((Question.method x.1).answer l).itemsAt "reverse").length = x.2.reverseCount := by
  obtain ⟨m, hm, rfl⟩ := List.mem_map.1 (h.entries_perm.mem_iff.1 hx)
  obtain ⟨i, hi⟩ := Array.mem_iff_getElem?.1 (Array.mem_toList_iff.1 hm)
  have hn : m.name ∈ l.graph.methodList := CallGraph.mem_methodList_iff.2 ⟨i, m, hi, rfl⟩
  obtain ⟨m', hfound, hm', hname⟩ := method?_lookup_of_mem h hn
  -- The method found under the name is the one that was listed.
  have hlisted : l.graph.nameOf? i = some m.name := CallGraph.nameOf?_of_getElem? hi
  have hanswered : l.graph.nameOf? m'.id = some m.name := by
    rw [CallGraph.nameOf?, hm', Option.map_some, hname]
  obtain rfl : i = m'.id := h.nameOf?_injective hlisted hanswered
  obtain rfl : m = m' := Option.some.inj (hi.symm.trans hm')
  have hanswer : (Question.method m.name).answer l =
      encodeMethod ⟨m.name, l.graph.forwardRefs m, l.graph.reverseRefs m⟩ :=
    methodAnswer_of_found hfound
  show (((Question.method m.name).answer l).itemsAt "forward").length = m.forward.length ∧
    (((Question.method m.name).answer l).itemsAt "reverse").length = m.reverse.length
  rw [hanswer, ← h.length_forwardRefs hi, ← h.length_reverseRefs hi]
  exact ⟨List.length_map _, List.length_map _⟩

theorem entriesAt_methodAnswers (h : l.graph.WellFormed) {name : String} {count : MethodSummary → Nat}
    (hcount : ∀ x ∈ l.graph.entries, (((Question.method x.1).answer l).itemsAt name).length = count x.2) :
    entriesAt name (methodAnswers l) = (l.graph.entries.map fun x => count x.2).sum := by
  rw [entriesAt, methodAnswers, listedNames_eq h, List.map_map, List.map_map]
  exact congrArg List.sum (List.map_congr_left hcount)

/-- The counts agree wherever those of the run are those of the graph. -/
theorem totalsAgree (h : l.graph.WellFormed) (hedges : l.stats.edges = l.graph.numEdges)
    (hentrypoints : l.stats.entrypoints = l.graph.entrypoints.size) : TotalsAgree l l.graph.numEdges where
  classes := by
    rw [listedClasses_eq, h.length_classNames]
    rfl
  methods := by
    rw [listedMethods_eq h, List.length_map, h.entries_perm.length_eq, List.length_map, Array.length_toList]
    rfl
  answers := by
    rw [methodAnswers, listedNames_eq h, listedMethods_eq h]
    simp only [List.length_map]
  edges := congrArg some hedges
  forwardCounts := by
    rw [listedMethods_eq h, Json.total?_map (fun x => x.2.forwardCount) fun _ => rfl, h.sum_forwardCount]
  reverseCounts := by
    rw [listedMethods_eq h, Json.total?_map (fun x => x.2.reverseCount) fun _ => rfl, h.sum_reverseCount]
  forward := by
    rw [entriesAt_methodAnswers h fun x hx => (length_itemsAt_of_mem_entries h hx).1, h.sum_forwardCount]
  reverse := by
    rw [entriesAt_methodAnswers h fun x hx => (length_itemsAt_of_mem_entries h hx).2, h.sum_reverseCount]
  entrypoints := by
    show some l.stats.entrypoints = some (l.graph.entrypointNames.map encodeName).length
    rw [hentrypoints, List.length_map, h.length_entrypointNames]

/-- **What the tools name, they answer for, and their counts add up.** Whatever the lines of a trace are: a
class that is listed is answered for under its name; a method that any answer names, be it to a well-formed
question or not, is answered for under its class and signature, and so are the traces around it for every limit
of depth; and the counts of classes, methods, calls and entry points are what the listings add up to. -/
theorem answers_closed (lines : List String) :
    let l := load lines
    (∀ q : Question, dispatch l q.tool q.arguments = .ok (q.answer l)) ∧
    (∀ name ∈ listedClasses l, IsClassAnswered l name) ∧
    (∀ tool arguments v, dispatch l tool arguments = .ok v → ∀ n ∈ v.names, IsAnswered l n) ∧
    ∃ calls, TotalsAgree l calls := by
  intro l
  have h : l.graph.WellFormed := (load_isGraphOf lines).wellFormed
  obtain ⟨hedges, hentrypoints⟩ := load_counted lines
  refine ⟨dispatch_question l, fun name hname => isClassAnswered_of_mem h ?_,
    fun tool arguments v hv n hn => isAnswered_of_mem h ?_, _, totalsAgree h hedges hentrypoints⟩
  · rwa [listedClasses_eq, h.classNames_perm.mem_iff] at hname
  · rcases dispatch_cases hv with ⟨message, rfl⟩ | ⟨q, rfl⟩
    · cases hn
    · exact q.mem_methodList_of_mem_names h hn

/-- A signature that is named in an answer, and that would be decoded to another one that is there too. -/
theorem answers_closed_encoded :
    let l := load ["trace", "    entry app.Main.a%20b():", "        directly calls app.Main.a b():"]
    let n : MethodName := ⟨"app.Main", "a%20b()"⟩
    (∃ v, dispatch l "calltree_entrypoints" [] = .ok v ∧ n ∈ v.names) ∧ IsAnswered l n ∧
      (Question.method n).answer l ≠ (Question.method ⟨"app.Main", "a b()"⟩).answer l := by
  intro l n
  obtain ⟨hanswers, -, hnames, -⟩ := answers_closed
    ["trace", "    entry app.Main.a%20b():", "        directly calls app.Main.a b():"]
  have hentry : dispatch l "calltree_entrypoints" [] = .ok (Question.entrypoints.answer l) :=
    hanswers .entrypoints
  have hn : n ∈ (Question.entrypoints.answer l).names := by decide +kernel
  refine ⟨⟨_, hentry, hn⟩, hnames _ _ _ hentry n hn, fun heq => ?_⟩
  have htext := congrArg (Json.textAt? "signature") heq
  revert htext
  decide +kernel

end Tools

end CallAtlas
