import CallAtlas.Proofs.Graph.Changes

/-!
# Runs of changes

A run makes one `Change` after the other, on a graph that is empty at first; a change that is refused
leaves the graph to the next one. `CallGraph.callsAdded` lists the calls that a run added, each when
`addEdge` answered that it did.

* `Tracks.apply`: a change keeps the graph well-formed and in step with the calls added; `Tracks.after`:
  so does a run.
* `after_consistent`: what holds of the graph after every run.
-/

namespace CallAtlas.Graph

/-- A change of a call graph. -/
inductive Change where
  | addClass (name : String)
  | addMethod (classId : ClassId) (signature : String)
  | addEntrypoint (id : MethodId)
  | addEdge (edge : CallEdge)
  | freeze
  deriving DecidableEq, Repr

namespace Change

/-- The graph after the change, made or refused. -/
def apply (g : CallGraph) : Change → CallGraph
  | addClass name => (g.addClass name).1
  | addMethod classId signature => (g.addMethod classId signature).1
  | addEntrypoint id => (g.addEntrypoint id).1
  | addEdge e => (g.addEdge e).1
  | freeze => g.freeze

/-- The call that the change answers to have added, if any. -/
def added (g : CallGraph) : Change → List CallEdge
  | addEdge e => if (g.addEdge e).2 matches .ok true then [e] else []
  | addClass _ | addMethod _ _ | addEntrypoint _ | freeze => []

end Change

namespace CallGraph

/-- The graph after the changes. -/
def after (g : CallGraph) (changes : List Change) : CallGraph :=
  changes.foldl Change.apply g

/-- The calls that the changes answer to have added, in order. -/
def callsAdded (g : CallGraph) : List Change → List CallEdge
  | [] => []
  | c :: cs => c.added g ++ (c.apply g).callsAdded cs

/-- The graph is well-formed, and its calls are those added. -/
structure Tracks (g : CallGraph) (added : List CallEdge) : Prop where
  wellFormed : g.WellFormed
  hasEdge : ∀ e, g.HasEdge e ↔ e ∈ added
  numEdges : g.numEdges = added.length

namespace Tracks

variable {g : CallGraph} {added : List CallEdge}

theorem empty : Tracks {} [] :=
  ⟨.empty, by simp [HasEdge], rfl⟩

/-- What keeps the calls keeps the graph in step with them. -/
private theorem of_same (h : g.Tracks added) {g' : CallGraph} (hwf : g'.WellFormed)
    (he : ∀ e, g'.HasEdge e ↔ g.HasEdge e) (hn : g'.numEdges = g.numEdges) : g'.Tracks added :=
  ⟨hwf, fun e => (he e).trans (h.hasEdge e), hn.trans h.numEdges⟩

private theorem addEdge (h : g.Tracks added) (e : CallEdge) :
    (g.addEdge e).1.Tracks (added ++ (Change.addEdge e).added g) := by
  have hwf := h.wellFormed.addEdge e
  rw [Change.added]
  rcases g.addEdge_cases e with
    ⟨-, heq⟩ | ⟨-, -, heq⟩ | ⟨-, -, heq⟩ | ⟨-, hnew, hcaller, hcallee, heq⟩ <;> rw [heq] at hwf ⊢
  · simpa using h
  · simpa using h
  · simpa using h
  · refine ⟨hwf, fun x => ?_, ?_⟩
    · rw [hasEdge_withEdge hcaller, h.hasEdge]
      simp [or_comm]
    · simp [withEdge, h.numEdges]

/-- A change keeps the graph in step with the calls added. -/
theorem apply (h : g.Tracks added) (c : Change) : (c.apply g).Tracks (added ++ c.added g) := by
  cases c with
  | addClass name =>
    have hwf := h.wellFormed.addClass name
    rw [Change.added, List.append_nil, Change.apply]
    rcases g.addClass_cases name with ⟨c, -, heq⟩ | ⟨-, -, heq⟩ | ⟨-, -, heq⟩ <;> rw [heq] at hwf ⊢
    exacts [h, h, h.of_same hwf (fun e => .rfl) rfl]
  | addMethod classId signature =>
    have hwf := h.wellFormed.addMethod classId signature
    rw [Change.added, List.append_nil, Change.apply]
    rcases g.addMethod_cases classId signature with
      ⟨-, heq⟩ | ⟨c, hc, ⟨id, -, heq⟩ | ⟨-, -, heq⟩ | ⟨hnew, -, heq⟩⟩
    · rw [heq]
      exact h
    · rw [heq]
      exact h
    · rw [heq]
      exact h
    · rw [heq (h.wellFormed.classId hc)] at hwf ⊢
      exact h.of_same hwf (fun e => hasEdge_withMethod) rfl
  | addEntrypoint id =>
    have hwf := h.wellFormed.addEntrypoint id
    rw [Change.added, List.append_nil, Change.apply]
    rcases g.addEntrypoint_cases id with
      ⟨-, heq⟩ | ⟨-, -, heq⟩ | ⟨-, -, -, heq⟩ | ⟨-, -, -, heq⟩ <;> rw [heq] at hwf ⊢
    exacts [h, h, h, h.of_same hwf (fun e => .rfl) rfl]
  | addEdge e => exact h.addEdge e
  | freeze =>
    rw [Change.added, List.append_nil]
    exact h.of_same h.wellFormed.freeze (fun e => .rfl) rfl

/-- A run keeps the graph in step with the calls added. -/
theorem after (h : g.Tracks added) (changes : List Change) :
    (g.after changes).Tracks (added ++ g.callsAdded changes) := by
  induction changes generalizing g added with
  | nil => simpa [callsAdded, CallGraph.after] using h
  | cons c cs ih =>
    have := ih (h.apply c)
    rwa [List.append_assoc] at this

end Tracks

theorem WellFormed.class?_eq_some_iff_mem {g : CallGraph} (h : g.WellFormed) {name : String}
    {c : ClassNode} : g.class? name = some c ↔ c ∈ g.classes ∧ c.name = name := by
  rw [h.class?_eq_some_iff, Array.mem_iff_getElem?]
  simp

/-- A graph that is not frozen refuses a call as known exactly if it has it. -/
theorem addEdge_eq_false_iff {g : CallGraph} (h : g.CallsAgree) (hf : g.frozen = false)
    {e : CallEdge} : (g.addEdge e).2 = .ok false ↔ g.HasEdge e := by
  rcases g.addEdge_cases e with
    ⟨hfrozen, -⟩ | ⟨-, hlt, heq⟩ | ⟨-, he, heq⟩ | ⟨-, he, -, -, heq⟩
  · rw [hf] at hfrozen
    cases hfrozen
  · rw [heq]
    constructor
    · intro hk
      cases hk
    · intro he
      have h1 := he.caller_lt
      have h2 := h.callee_lt he
      exact (hlt.elim (Nat.not_le_of_lt h1) (Nat.not_le_of_lt h2)).elim
  · rw [heq]
    exact ⟨fun _ => he, fun _ => rfl⟩
  · rw [heq]
    constructor
    · intro hk
      cases hk
    · exact fun hk => absurd hk he

/-! ## Graphs that are not frozen -/

/-- What the changes of a graph that is not frozen are answered with, where the calls added so far are these: none
that names what is there is refused, and what was to be added is there afterwards. -/
structure Takes (g : CallGraph) (added : List CallEdge) : Prop where
  addClass : ∀ name, ∃ id c, (g.addClass name).2 = .ok id ∧
    (g.addClass name).1.classes[id]? = some c ∧ c.name = name ∧ (g.addClass name).1.class? name = some c
  addMethod : ∀ c ∈ g.classes, ∀ signature, ∃ id m, (g.addMethod c.id signature).2 = .ok id ∧
    (g.addMethod c.id signature).1.methods[id]? = some m ∧ m.classId = c.id ∧ m.name = ⟨c.name, signature⟩
  addEntrypoint : ∀ id < g.methods.size,
    (g.addEntrypoint id).2 = .ok (decide (id ∉ g.entrypoints)) ∧ id ∈ (g.addEntrypoint id).1.entrypoints
  addEdge : ∀ e : CallEdge, e.caller < g.methods.size → e.callee < g.methods.size →
    (g.addEdge e).2 = .ok (decide (e ∉ added)) ∧ ∀ x, (g.addEdge e).1.HasEdge x ↔ x = e ∨ g.HasEdge x

namespace WellFormed

variable {g : CallGraph}

theorem addClass_of_notFrozen (h : g.WellFormed) (hf : g.frozen = false) (name : String) :
    ∃ id c, (g.addClass name).2 = .ok id ∧ (g.addClass name).1.classes[id]? = some c ∧ c.name = name ∧
      (g.addClass name).1.class? name = some c := by
  have hwf := h.addClass name
  rcases g.addClass_cases name with ⟨c, hc, heq⟩ | ⟨-, hfrozen, -⟩ | ⟨-, -, heq⟩
  · obtain ⟨i, hi, hname⟩ := h.class?_eq_some_iff.1 hc
    obtain rfl := h.classId hi
    rw [heq]
    exact ⟨c.id, c, rfl, hi, hname, hc⟩
  · rw [hf] at hfrozen
    cases hfrozen
  · rw [heq] at hwf ⊢
    have hnew : (g.withClass name).classes[g.classes.size]? = some { id := g.classes.size, name } := by
      simp [CallGraph.withClass]
    exact ⟨_, _, rfl, hnew, rfl, hwf.class?_eq_some_iff.2 ⟨_, hnew, rfl⟩⟩

theorem addMethod_of_notFrozen (h : g.WellFormed) (hf : g.frozen = false) {c : ClassNode} (hc : c ∈ g.classes)
    (signature : String) : ∃ id m, (g.addMethod c.id signature).2 = .ok id ∧
      (g.addMethod c.id signature).1.methods[id]? = some m ∧ m.classId = c.id ∧ m.name = ⟨c.name, signature⟩ := by
  obtain ⟨i, hi⟩ := Array.mem_iff_getElem?.1 hc
  obtain rfl := h.classId hi
  rcases g.addMethod_cases c.id signature with
    ⟨hnone, -⟩ | ⟨d, hd, ⟨id, hid, heq⟩ | ⟨-, hfrozen, -⟩ | ⟨-, -, heq⟩⟩
  · rw [hi] at hnone
    cases hnone
  · rw [hi] at hd
    cases hd
    obtain ⟨m, hm, hclass, hsignature⟩ := (h.find?_eq_some_iff hi).1 hid
    obtain ⟨d, hd, hname⟩ := h.owner hm
    rw [hclass, hi] at hd
    cases hd
    rw [heq]
    exact ⟨id, m, rfl, hm, hclass, by rw [hname, ← hsignature]⟩
  · rw [hf] at hfrozen
    cases hfrozen
  · rw [hi] at hd
    cases hd
    rw [heq rfl]
    exact ⟨_, _, rfl, Array.getElem?_push_size, rfl, rfl⟩

theorem addEntrypoint_of_notFrozen (h : g.WellFormed) (hf : g.frozen = false) {id : MethodId}
    (hid : id < g.methods.size) : (g.addEntrypoint id).2 = .ok (decide (id ∉ g.entrypoints)) ∧
      id ∈ (g.addEntrypoint id).1.entrypoints := by
  rcases g.addEntrypoint_cases id with
    ⟨hfrozen, -⟩ | ⟨-, hle, -⟩ | ⟨-, -, hold, heq⟩ | ⟨-, -, hnew, heq⟩
  · rw [hf] at hfrozen
    cases hfrozen
  · exact absurd hid (Nat.not_lt_of_le hle)
  · rw [h.mem_entryIds_iff] at hold
    rw [heq, decide_eq_false (not_not_intro hold)]
    exact ⟨rfl, hold⟩
  · rw [h.mem_entryIds_iff] at hnew
    rw [heq, decide_eq_true hnew]
    exact ⟨rfl, Array.mem_push_self⟩

end WellFormed

theorem addEdge_of_notFrozen {g : CallGraph} (hf : g.frozen = false) {e : CallEdge}
    (hcaller : e.caller < g.methods.size) (hcallee : e.callee < g.methods.size) :
    (g.HasEdge e ∧ g.addEdge e = (g, .ok false)) ∨ (¬g.HasEdge e ∧ g.addEdge e = (g.withEdge e, .ok true)) := by
  rcases g.addEdge_cases e with ⟨hfrozen, -⟩ | ⟨-, hle, -⟩ | ⟨-, hold, heq⟩ | ⟨-, hnew, -, -, heq⟩
  · rw [hf] at hfrozen
    cases hfrozen
  · exact (hle.elim (Nat.not_le_of_lt hcaller) (Nat.not_le_of_lt hcallee)).elim
  · exact .inl ⟨hold, heq⟩
  · exact .inr ⟨hnew, heq⟩

theorem Tracks.takes {g : CallGraph} {added : List CallEdge} (h : g.Tracks added) (hf : g.frozen = false) :
    g.Takes added where
  addClass := h.wellFormed.addClass_of_notFrozen hf
  addMethod _ hc := h.wellFormed.addMethod_of_notFrozen hf hc
  addEntrypoint _ hid := h.wellFormed.addEntrypoint_of_notFrozen hf hid
  addEdge e hcaller hcallee := by
    rcases addEdge_of_notFrozen hf hcaller hcallee with ⟨hold, heq⟩ | ⟨hnew, heq⟩ <;> rw [heq]
    · rw [decide_eq_false (not_not_intro ((h.hasEdge e).1 hold))]
      exact ⟨rfl, fun x => (or_iff_right_of_imp fun hx => hx ▸ hold).symm⟩
    · rw [decide_eq_true (mt (h.hasEdge e).2 hnew)]
      exact ⟨rfl, fun x => hasEdge_withEdge hcaller⟩

/-- **After every run the graph is consistent.** The index by name has the listed classes, each under its name and
no name twice; a method stands in the table of its own class, under its signature, and in no other; a call stands
with its caller exactly if it stands with the method called; the calls counted are those of the run that were
answered with `true`; and the entry points listed, none of them twice, are those of the set. As long as the graph is
not frozen, the calls added are the calls answered with `false` from then on, any other call between methods that
are there is answered with `true`, and what is added is there afterwards. -/
theorem after_consistent (changes : List Change) :
    let g := ({} : CallGraph).after changes
    let added := ({} : CallGraph).callsAdded changes
    g.WellFormed ∧
    ((∀ x : ClassEntry, x ∈ g.classIndex ↔ ∃ c, g.classes[x.id]? = some c ∧ c.name = x.name) ∧
      (g.classIndex.toList.map (·.name)).Nodup) ∧
    (∀ name c, g.class? name = some c ↔ c ∈ g.classes ∧ c.name = name) ∧
    (∀ (i : MethodId) (m : MethodNode), g.methods[i]? = some m →
      (∃ c, g.classes[m.classId]? = some c ∧ c.name = m.name.className) ∧
      ∀ (j : ClassId) (d : ClassNode) (signature : String), g.classes[j]? = some d →
        ((⟨signature, i⟩ : Member) ∈ d.members ↔ j = m.classId ∧ signature = m.name.signature)) ∧
    (∀ (i : MethodId) (m : MethodNode), g.methods[i]? = some m → ∀ e : CallEdge,
      (e ∈ m.forward ↔ e.caller = m.id ∧ ∃ n, g.methods[e.callee]? = some n ∧ e ∈ n.reverse) ∧
      (e ∈ m.reverse ↔ e.callee = m.id ∧ ∃ n, g.methods[e.caller]? = some n ∧ e ∈ n.forward)) ∧
    g.numEdges = (g.methods.toList.map (·.forward.length)).sum ∧
    g.numEdges = (g.methods.toList.map (·.reverse.length)).sum ∧
    g.numEdges = added.length ∧
    (g.entrypoints.toList.Nodup ∧ (∀ id, id ∈ g.entryIds ↔ id ∈ g.entrypoints) ∧
      ∀ id, g.isEntrypoint id = true ↔ id ∈ g.entrypoints) ∧
    (g.frozen = false → (∀ e : CallEdge, (g.addEdge e).2 = .ok false ↔ e ∈ added) ∧ g.Takes added) := by
  intro g added
  have h : g.Tracks added := Tracks.empty.after changes
  have hwf := h.wellFormed
  have hindex : (g.classIndex.toList.map (·.name)).Nodup := by
    rw [hwf.map_classIndex]
    exact hwf.nodup_classList
  refine ⟨hwf, ⟨fun x => hwf.mem_classIndex_iff, hindex⟩, fun name c => hwf.class?_eq_some_iff_mem,
    fun i m hm => ⟨hwf.owner hm, ?_⟩, fun i m hm e => ?_, hwf.numEdges_forward.symm, hwf.numEdges_reverse.symm,
    h.numEdges, ⟨hwf.entrypoints_nodup, fun id => hwf.mem_entryIds_iff, fun id => hwf.isEntrypoint_iff⟩,
    fun hf => ⟨fun e => ?_, h.takes hf⟩⟩
  · intro j d signature hd
    rw [hwf.members hd]
    constructor
    · rintro ⟨n, hn, hclass, hsig⟩
      rw [hm] at hn
      cases hn
      exact ⟨hclass.symm, hsig.symm⟩
    · rintro ⟨rfl, rfl⟩
      exact ⟨m, hm, rfl, rfl⟩
  · rw [hwf.methodId hm]
    exact ⟨hwf.mem_forward_iff hm, hwf.mem_reverse_iff hm⟩
  · rw [addEdge_eq_false_iff hwf.toCallsAgree hf, h.hasEdge]

/-- A run with a method that calls itself in two ways, with changes made twice, and with a call to a method that is
not there. -/
theorem after_consistent_loop :
    let changes : List Change := [.addClass "app.Main", .addMethod 0 "run()", .addMethod 0 "stop()",
      .addEdge ⟨"directly calls", 0, 0⟩, .addEdge ⟨"wakes", 0, 0⟩, .addEdge ⟨"wakes", 0, 1⟩,
      .addEdge ⟨"directly calls", 0, 0⟩, .addEdge ⟨"wakes", 0, 2⟩, .addEntrypoint 0, .addEntrypoint 0,
      .addClass "app.Main", .addMethod 0 "run()"]
    let g := ({} : CallGraph).after changes
    let frozen := ({} : CallGraph).after (changes ++ [.freeze, .addEdge ⟨"directly calls", 0, 1⟩])
    g.frozen = false ∧ g.numEdges = 3 ∧ frozen.numEdges = 3 ∧ g.entrypoints = #[0] ∧ g.entryIds = [0] ∧
      g.classIndex = #[⟨"app.Main", 0⟩] ∧
      (g.addEdge ⟨"directly calls", 0, 0⟩).2 = .ok false ∧ (g.addEdge ⟨"directly calls", 0, 1⟩).2 = .ok true ∧
      (∀ x, (g.addEdge ⟨"directly calls", 0, 1⟩).1.HasEdge x ↔ x = ⟨"directly calls", 0, 1⟩ ∨ g.HasEdge x) ∧
      (frozen.addEdge ⟨"directly calls", 0, 1⟩).2 = .error .frozen := by
  intro changes g frozen
  have hf : g.frozen = false := by decide +kernel
  obtain ⟨-, -, -, -, -, -, -, hnum, -, hopen⟩ := after_consistent changes
  obtain ⟨-, -, -, -, -, -, -, hnum', -⟩ :=
    after_consistent (changes ++ [.freeze, .addEdge ⟨"directly calls", 0, 1⟩])
  obtain ⟨hknown, htakes⟩ := hopen hf
  have hadded : ({} : CallGraph).callsAdded changes =
      [⟨"directly calls", 0, 0⟩, ⟨"wakes", 0, 0⟩, ⟨"wakes", 0, 1⟩] := by decide +kernel
  have hadded' : (({} : CallGraph).callsAdded
      (changes ++ [.freeze, .addEdge ⟨"directly calls", 0, 1⟩])).length = 3 := by decide +kernel
  obtain ⟨hanswer, hstored⟩ := htakes.addEdge ⟨"directly calls", 0, 1⟩ (by decide +kernel) (by decide +kernel)
  rw [hadded] at hnum hknown hanswer
  exact ⟨hf, hnum, hnum'.trans hadded', by decide +kernel, by decide +kernel, by decide +kernel,
    (hknown _).2 (by decide), hanswer, hstored, by decide +kernel⟩

end CallGraph

end CallAtlas.Graph
