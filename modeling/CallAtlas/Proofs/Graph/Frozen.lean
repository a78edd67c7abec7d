import CallAtlas.Proofs.Graph.Reading
import CallAtlas.Proofs.Graph.Runs

/-!
# Frozen graphs

A frozen graph stays as it is. A builder that has frozen its graph still trims its frames and counts
records, but what it counts of the graph stays too, and it takes no record.

* `CallGraph.apply_of_frozen`, `CallGraph.after_of_frozen`: no change, and no run of changes, changes a
  frozen graph.
* `Builder.Step`, `Builder.after`: the steps of a builder, and runs of them.
* `Builder.Keeps`: two builders have the same graph, and the same counts of what it has.
* `Builder.addRecord_of_frozen`, `Builder.keeps_apply_of_frozen`: what a step does once the graph is
  frozen; `Builder.keeps_after_of_frozen`: so does a run.
* `frozen_graph_stays`: both, for the graphs and the builders that runs lead to.
-/

namespace CallAtlas.Graph

open Trace

/-! ## Changes of a frozen graph -/

namespace CallGraph

variable {g : CallGraph}

theorem addClass_of_frozen (hf : g.frozen = true) (name : String) :
    (∃ c, g.class? name = some c ∧ g.addClass name = (g, .ok c.id)) ∨
      (g.class? name = none ∧ g.addClass name = (g, .error .frozen)) := by
  rcases g.addClass_cases name with hfound | ⟨hnone, -, heq⟩ | ⟨-, hf', -⟩
  · exact .inl hfound
  · exact .inr ⟨hnone, heq⟩
  · rw [hf] at hf'
    cases hf'

theorem addMethod_of_frozen (hf : g.frozen = true) (classId : ClassId) (signature : String) :
    (g.classes[classId]? = none ∧ g.addMethod classId signature = (g, .error .unknownClass)) ∨
    ∃ c, g.classes[classId]? = some c ∧
      ((∃ id, c.find? signature = some id ∧ g.addMethod classId signature = (g, .ok id)) ∨
      (c.find? signature = none ∧ g.addMethod classId signature = (g, .error .frozen))) := by
  rcases g.addMethod_cases classId signature with hnone | ⟨c, hc, hfound | ⟨hnone, -, heq⟩ | ⟨-, hf', -⟩⟩
  · exact .inl hnone
  · exact .inr ⟨c, hc, .inl hfound⟩
  · exact .inr ⟨c, hc, .inr ⟨hnone, heq⟩⟩
  · rw [hf] at hf'
    cases hf'

theorem addEntrypoint_of_frozen (hf : g.frozen = true) (id : MethodId) :
    g.addEntrypoint id = (g, .error .frozen) := by
  rw [addEntrypoint, if_pos hf]

theorem addEdge_of_frozen (hf : g.frozen = true) (e : CallEdge) :
    g.addEdge e = (g, .error .frozen) := by
  rw [addEdge, if_pos hf]

theorem freeze_of_frozen (hf : g.frozen = true) : g.freeze = g := by
  rw [freeze, ← hf]

/-- No change changes a frozen graph. -/
theorem apply_of_frozen (hf : g.frozen = true) (c : Change) : c.apply g = g := by
  cases c with
  | addClass name =>
    rcases addClass_of_frozen hf name with ⟨c, -, heq⟩ | ⟨-, heq⟩ <;> rw [Change.apply, heq]
  | addMethod classId signature =>
    rcases addMethod_of_frozen hf classId signature with ⟨-, heq⟩ | ⟨c, -, ⟨id, -, heq⟩ | ⟨-, heq⟩⟩ <;>
      rw [Change.apply, heq]
  | addEntrypoint id => rw [Change.apply, addEntrypoint_of_frozen hf]
  | addEdge e => rw [Change.apply, addEdge_of_frozen hf]
  | freeze => exact freeze_of_frozen hf

theorem after_of_frozen (hf : g.frozen = true) (changes : List Change) : g.after changes = g := by
  induction changes with
  | nil => rfl
  | cons c cs ih =>
    rw [after, List.foldl_cons, apply_of_frozen hf]
    exact ih

/-! ## Names that are there, or not -/

/-- A class that is there is found, frozen or not. -/
theorem WellFormed.addClass_of_mem (h : g.WellFormed) {c : ClassNode} (hc : c ∈ g.classes) :
    g.addClass c.name = (g, .ok c.id) := by
  unfold CallGraph.addClass
  rw [h.class?_eq_some_iff_mem.2 ⟨hc, rfl⟩]

theorem WellFormed.addClass_of_notMem (h : g.WellFormed) (hf : g.frozen = true) {name : String}
    (hname : name ∉ g.classList) : g.addClass name = (g, .error .frozen) := by
  unfold CallGraph.addClass
  rw [h.class?_eq_none_iff.2 hname, hf]
  rfl

/-- A method that is there is found, frozen or not. -/
theorem WellFormed.addMethod_of_mem (h : g.WellFormed) {m : MethodNode} (hm : m ∈ g.methods) :
    g.addMethod m.classId m.name.signature = (g, .ok m.id) := by
  obtain ⟨i, hi⟩ := Array.mem_iff_getElem?.1 hm
  obtain ⟨c, hc, -⟩ := h.owner hi
  have hfind : c.find? m.name.signature = some m.id := by
    rw [h.methodId hi]
    exact (h.find?_eq_some_iff hc).2 ⟨m, hi, rfl, rfl⟩
  unfold CallGraph.addMethod
  simp only [hc, hfind]

theorem WellFormed.addMethod_of_notMem (h : g.WellFormed) (hf : g.frozen = true) {c : ClassNode}
    (hc : c ∈ g.classes) {signature : String} (hnone : ⟨c.name, signature⟩ ∉ g.methodList) :
    g.addMethod c.id signature = (g, .error .frozen) := by
  obtain ⟨i, hi⟩ := Array.mem_iff_getElem?.1 hc
  obtain rfl := h.classId hi
  have hfind : c.find? signature = none := by
    rw [← h.methodId?_eq_none_iff, methodId?, h.class?_eq_some_iff_mem.2 ⟨hc, rfl⟩] at hnone
    exact hnone
  unfold CallGraph.addMethod
  simp only [hi, hfind, hf, if_true]

/-- What a frozen graph answers to names: it finds what is there, and refuses all else as frozen. -/
theorem WellFormed.addNamed_of_frozen (h : g.WellFormed) (hf : g.frozen = true) (name : MethodName) :
    (∃ id, g.addNamed name = (g, .ok id)) ∨ g.addNamed name = (g, .error .frozen) := by
  unfold addNamed
  rcases addClass_of_frozen hf name.className with ⟨c, hc, heq⟩ | ⟨-, heq⟩
  · obtain ⟨i, hi, -⟩ := h.class?_eq_some_iff.1 hc
    obtain rfl := h.classId hi
    rw [heq]
    rcases addMethod_of_frozen hf c.id name.signature with
      ⟨hnone, -⟩ | ⟨d, -, ⟨id, -, heq⟩ | ⟨-, heq⟩⟩
    · rw [hi] at hnone
      cases hnone
    · exact .inl ⟨id, heq⟩
    · exact .inr heq
  · rw [heq]
    exact .inr rfl

theorem WellFormed.addNamed (h : g.WellFormed) (name : MethodName) : (g.addNamed name).1.WellFormed := by
  have hclass := h.addClass name.className
  unfold CallGraph.addNamed
  split
  next heq => rwa [heq] at hclass
  next heq =>
    rw [heq] at hclass
    exact hclass.addMethod _ _

end CallGraph

/-! ## Steps of a builder -/

namespace Builder

/-- A step of a builder. -/
inductive Step where
  | addRecord (r : Record)
  | addLines (lines : List String) (hasHeader : Bool)
  | build
  deriving DecidableEq, Repr

/-- The builder after the step, whatever came of it. -/
def Step.apply (b : Builder) : Step → Builder
  | addRecord r => (b.addRecord r).1
  | addLines lines hasHeader => (b.addLines lines hasHeader).1
  | build => b.build

/-- The builder after the steps. -/
def after (b : Builder) (steps : List Step) : Builder :=
  steps.foldl Step.apply b

/-- The second builder has the graph of the first, and counts the same of what the graph has. -/
structure Keeps (b b' : Builder) : Prop where
  graph : b'.graph = b.graph
  entrypoints : b'.stats.entrypoints = b.stats.entrypoints
  edges : b'.stats.edges = b.stats.edges
  duplicateEdges : b'.stats.duplicateEdges = b.stats.duplicateEdges

theorem Keeps.refl (b : Builder) : b.Keeps b :=
  ⟨rfl, rfl, rfl, rfl⟩

theorem Keeps.trans {b₁ b₂ b₃ : Builder} (h : b₁.Keeps b₂) (h' : b₂.Keeps b₃) : b₁.Keeps b₃ :=
  ⟨h'.graph.trans h.graph, h'.entrypoints.trans h.entrypoints, h'.edges.trans h.edges,
    h'.duplicateEdges.trans h.duplicateEdges⟩

/-! ## The graph stays well-formed -/

section

variable {b : Builder}

theorem graph_checkEntry (b : Builder) (r : Record) : (b.checkEntry r).graph = b.graph := by
  obtain ⟨notices, heq, -⟩ := b.checkEntry_eq r
  rw [heq]

theorem wellFormed_enter (h : b.graph.WellFormed) (id : MethodId) :
    (b.enter id).1.graph.WellFormed := by
  have hentry := h.addEntrypoint id
  obtain ⟨graph, frames, origin, stats⟩ := b
  unfold enter
  dsimp only at hentry ⊢
  split <;> rename_i heq <;> rwa [heq] at hentry

theorem wellFormed_connect (h : b.graph.WellFormed) (e : CallEdge) :
    (b.connect e).1.graph.WellFormed := by
  have hedge := h.addEdge e
  obtain ⟨graph, frames, origin, stats⟩ := b
  unfold connect
  dsimp only at hedge ⊢
  split <;> rename_i heq <;> rwa [heq] at hedge

theorem wellFormed_addRecord (h : b.graph.WellFormed) (r : Record) :
    (b.addRecord r).1.graph.WellFormed := by
  have hnamed := h.addNamed r.method
  rcases b.addRecord_cases r with ⟨-, m, heq⟩ | ⟨-, -, heq⟩ <;> rw [heq]
  · exact h
  · rcases place_cases _ r _ with
      ⟨g, e, hadd, heq⟩ | ⟨g, id, hadd, ⟨-, heq⟩ | ⟨caller, -, heq⟩⟩ <;> rw [heq]
    all_goals
      dsimp only at hadd
      rw [hadd] at hnamed
    · exact hnamed
    · exact wellFormed_enter (by rwa [graph_checkEntry]) id
    · exact wellFormed_connect hnamed _

/-- What adding records keeps, and counting lines keeps, adding lines keeps. -/
theorem addLinesFrom_induction {P : Builder → Prop} (hcount : ∀ b : Builder, P b → P b.countLine)
    (hrefuse : ∀ (b : Builder) (m : Malformed), P b → P (b.refuse m))
    (hadd : ∀ (b : Builder) (r : Record), P b → P (b.addRecord r).1)
    (isTold : Malformed → Bool) (hasHeader : Bool) (lineNo : Nat) (lines : List String) {b : Builder}
    (hb : P b) : P (b.addLinesFrom isTold hasHeader lineNo lines).1 := by
  have hline : ∀ (b : Builder) (lineNo : Nat) (line : String), P b →
      P (b.addLine isTold lineNo line).1 := by
    intro b lineNo line hb
    unfold addLine
    split
    · exact hrefuse b _ hb
    next r _ =>
      have hr := hadd b r hb
      split <;> rename_i heq <;> rw [heq] at hr
      · exact hr
      · split
        exacts [hrefuse _ _ hr, hr]
      · exact hr
  induction lines generalizing b lineNo with
  | nil => exact hb
  | cons line rest ih =>
    have hb := hcount b hb
    cases hout : isLeftOut hasHeader lineNo line with
    | true =>
      rw [addLinesFrom_of_leftOut hout]
      exact ih (lineNo + 1) hb
    | false =>
      have hb := hline _ lineNo line hb
      rw [addLinesFrom_of_not_leftOut hout]
      split <;> rename_i heq <;> rw [heq] at hb
      exacts [ih (lineNo + 1) hb, hb]

theorem wellFormed_after (h : b.graph.WellFormed) (steps : List Step) :
    (b.after steps).graph.WellFormed := by
  induction steps generalizing b with
  | nil => exact h
  | cons step steps ih =>
    refine ih ?_
    cases step with
    | addRecord r => exact wellFormed_addRecord h r
    | addLines lines hasHeader =>
      exact addLinesFrom_induction (P := fun b => b.graph.WellFormed) (fun b h => h) (fun b m h => h)
        (fun b r h => wellFormed_addRecord h r) _ _ _ _ h
    | build => exact h.freeze

/-! ## Steps once the graph is frozen -/

theorem enter_of_frozen (hf : b.graph.frozen = true) (id : MethodId) :
    b.enter id = (b, .error (.graph .frozen)) := by
  obtain ⟨graph, frames, origin, stats⟩ := b
  rw [enter, CallGraph.addEntrypoint_of_frozen hf]

theorem connect_of_frozen (hf : b.graph.frozen = true) (e : CallEdge) :
    b.connect e = (b, .error (.graph .frozen)) := by
  obtain ⟨graph, frames, origin, stats⟩ := b
  rw [connect, CallGraph.addEdge_of_frozen hf]

/-- A record is placed up to the point where the graph refuses it; what the graph has is not counted
anew. -/
theorem place_of_frozen (h : b.graph.WellFormed) (hf : b.graph.frozen = true) (r : Record)
    (level : Nat) : ∃ b', b.place r level = (b', .error (.graph .frozen)) ∧ b.Keeps b' := by
  have hnamed := h.addNamed_of_frozen hf r.method
  rcases b.place_cases r level with ⟨g, e, hadd, heq⟩ | ⟨g, id, hadd, hplaced⟩
  · rw [hadd] at hnamed
    rcases hnamed with ⟨id, hid⟩ | hid <;> cases hid
    exact ⟨_, heq, rfl, rfl, rfl, rfl⟩
  · rw [hadd] at hnamed
    obtain rfl : g = b.graph := by
      rcases hnamed with ⟨id, hid⟩ | hid <;> cases hid
      rfl
    rcases hplaced with ⟨-, heq⟩ | ⟨caller, -, heq⟩
    · obtain ⟨notices, hcheck, -⟩ := checkEntry_eq (b.placed level b.graph id) r
      rw [hcheck, enter_of_frozen (by exact hf)] at heq
      exact ⟨_, heq, rfl, rfl, rfl, rfl⟩
    · rw [connect_of_frozen (by exact hf)] at heq
      exact ⟨_, heq, rfl, rfl, rfl, rfl⟩

/-- **A builder whose graph is frozen takes no record.** The record is refused at its level, or by the
graph. -/
theorem addRecord_of_frozen (h : b.graph.WellFormed) (hf : b.graph.frozen = true) (r : Record) :
    ∃ b' e, b.addRecord r = (b', .error e) ∧ b.Keeps b' ∧
      (e = .graph .frozen ∨ ∃ m, e = .malformed m) := by
  have hcases := b.addRecord_cases r
  generalize b.origin.getD _ = top at hcases
  rcases hcases with ⟨-, m, heq⟩ | ⟨-, -, heq⟩
  · exact ⟨_, _, heq, ⟨rfl, rfl, rfl, rfl⟩, .inr ⟨m, rfl⟩⟩
  · obtain ⟨b', hplace, hkeeps⟩ :=
      place_of_frozen (b := { b with origin := some top }) h hf r (r.depth - top).toNat
    exact ⟨b', _, heq.trans hplace, ⟨hkeeps.1, hkeeps.2, hkeeps.3, hkeeps.4⟩, .inl rfl⟩

/-- No step changes a frozen graph, or what is counted of it. -/
theorem keeps_apply_of_frozen (h : b.graph.WellFormed) (hf : b.graph.frozen = true) (step : Step) :
    b.Keeps (step.apply b) := by
  have hadd : ∀ (c : Builder) (r : Record), b.Keeps c → b.Keeps (c.addRecord r).1 := by
    intro c r hc
    obtain ⟨c', e, heq, hc', -⟩ :=
      addRecord_of_frozen (b := c) (by rwa [hc.graph]) (by rwa [hc.graph]) r
    rw [heq]
    exact hc.trans hc'
  cases step with
  | addRecord r => exact hadd b r (.refl b)
  | addLines lines hasHeader =>
    exact addLinesFrom_induction (fun c hc => ⟨hc.1, hc.2, hc.3, hc.4⟩)
      (fun c m hc => ⟨hc.1, hc.2, hc.3, hc.4⟩) hadd _ _ _ _ (.refl b)
  | build => exact ⟨CallGraph.freeze_of_frozen hf, rfl, rfl, rfl⟩

theorem keeps_after_of_frozen (h : b.graph.WellFormed) (hf : b.graph.frozen = true)
    (steps : List Step) : b.Keeps (b.after steps) := by
  induction steps generalizing b with
  | nil => exact .refl b
  | cons step steps ih =>
    have hstep := keeps_apply_of_frozen h hf step
    exact hstep.trans (ih (by rwa [hstep.graph]) (by rwa [hstep.graph]))

end

end Builder

/-- **A frozen graph stays as it is.** After any run of a builder that ends with `build`, further steps
leave the graph and what is counted of it; they take no record, as it is refused at its level or by the
graph. After any run of changes that has frozen a graph, further changes leave it; calls and entry points
are refused even if they are there, and names are found exactly if they are. -/
theorem frozen_graph_stays (earlier later : List Builder.Step) (changes : List Change) :
    let b := (({} : Builder).after earlier).build
    let b' := b.after later
    let g := ({} : CallGraph).after changes
    (b.graph.frozen = true ∧ b'.graph = b.graph ∧ b'.stats.entrypoints = b.stats.entrypoints ∧
      b'.stats.edges = b.stats.edges ∧ b'.stats.duplicateEdges = b.stats.duplicateEdges ∧
      ∀ r, ∃ e, (b'.addRecord r).2 = .error e ∧ (e = .graph .frozen ∨ ∃ m, e = .malformed m)) ∧
    (g.frozen = true →
      (∀ more, g.after more = g) ∧ g.freeze = g ∧
      (∀ e, g.addEdge e = (g, .error .frozen)) ∧
      (∀ id, g.addEntrypoint id = (g, .error .frozen)) ∧
      (∀ c ∈ g.classes, g.addClass c.name = (g, .ok c.id)) ∧
      (∀ name, name ∉ g.classList → g.addClass name = (g, .error .frozen)) ∧
      (∀ m ∈ g.methods, g.addMethod m.classId m.name.signature = (g, .ok m.id)) ∧
      (∀ c ∈ g.classes, ∀ signature, ⟨c.name, signature⟩ ∉ g.methodList →
        g.addMethod c.id signature = (g, .error .frozen))) := by
  intro b b' g
  constructor
  · have hb : b.graph.WellFormed := (Builder.wellFormed_after .empty earlier).freeze
    have hkeeps : b.Keeps b' := Builder.keeps_after_of_frozen hb rfl later
    refine ⟨rfl, hkeeps.graph, hkeeps.entrypoints, hkeeps.edges, hkeeps.duplicateEdges, fun r => ?_⟩
    obtain ⟨b'', e, heq, -, he⟩ :=
      Builder.addRecord_of_frozen (b := b') (by rwa [hkeeps.graph]) (by rw [hkeeps.graph]; rfl) r
    exact ⟨e, by rw [heq], he⟩
  · intro hf
    have hg : g.WellFormed := (CallGraph.Tracks.empty.after changes).wellFormed
    exact ⟨CallGraph.after_of_frozen hf, CallGraph.freeze_of_frozen hf, CallGraph.addEdge_of_frozen hf,
      CallGraph.addEntrypoint_of_frozen hf, fun c hc => hg.addClass_of_mem hc,
      fun name hname => hg.addClass_of_notMem hf hname, fun m hm => hg.addMethod_of_mem hm,
      fun c hc signature hnone => hg.addMethod_of_notMem hf hc hnone⟩

/-- A method that calls itself, as an entry point of a builder and in a graph that is frozen then. The record
is refused the second time, and so is the call, although the graph has it; the method is found. -/
theorem frozen_graph_stays_loop :
    let run : Record := ⟨0, "entry", ⟨"app.Main", "run()"⟩, none⟩
    let b := (({} : Builder).after [.addRecord run]).build
    let g := ({} : CallGraph).after [.addClass "app.Main", .addMethod 0 "run()",
      .addEdge ⟨"directly calls", 0, 0⟩, .freeze]
    (b.after [.addRecord run, .addRecord run]).graph = b.graph ∧
    (∃ e, ((b.after [.addRecord run]).addRecord run).2 = .error e) ∧
    g.frozen = true ∧ g.addEdge ⟨"directly calls", 0, 0⟩ = (g, .error .frozen) ∧
    g.addMethod 0 "run()" = (g, .ok 0) ∧ g.addMethod 0 "stop()" = (g, .error .frozen) := by
  intro run b g
  have hf : g.frozen = true := by decide
  obtain ⟨-, hgraph, -⟩ := (frozen_graph_stays [.addRecord run] [.addRecord run, .addRecord run] []).1
  obtain ⟨-, -, -, -, -, hrefused⟩ := (frozen_graph_stays [.addRecord run] [.addRecord run] []).1
  obtain ⟨-, -, hedge, -, -, -, hfound, hnone⟩ := (frozen_graph_stays [] [] _).2 hf
  obtain ⟨e, he, -⟩ := hrefused run
  refine ⟨hgraph, ⟨e, he⟩, hf, hedge _, ?_, ?_⟩
  · exact hfound ⟨0, 0, ⟨"app.Main", "run()"⟩, [⟨"directly calls", 0, 0⟩], [⟨"directly calls", 0, 0⟩]⟩
      (by decide +kernel)
  · exact hnone ⟨0, "app.Main", [⟨"run()", 0⟩]⟩ (by decide +kernel) "stop()" (by decide)

end CallAtlas.Graph
