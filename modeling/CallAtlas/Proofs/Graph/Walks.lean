import CallAtlas.Graph.Tree
import CallAtlas.Proofs.Graph.WellFormed
import Mathlib.Data.List.Perm.Subperm

/-!
# Walks along calls

A walk follows calls one after the other, from callers to the methods called or the other way round; a
simple path is a walk that comes to no method twice.

* `CallGraph.Step`, `CallGraph.Walk`, `CallGraph.SimplePath`: a call that can be followed, calls that can
  be followed in turn, and those without repetition.
* `CallsAgree.step_iff`: in either direction the calls to follow are those of the graph.
* `CallsAgree.simplePath_reverse_iff`: a simple path read backwards is one in the opposite direction.
* `Walk.exists_simplePath`: what a walk leads to, a simple path leads to, and a simple path is shorter than
  the graph has methods (`SimplePath.length_lt`).
-/

namespace CallAtlas.Graph

namespace Direction

/-- The method that a call is followed from. -/
def source (d : Direction) (e : CallEdge) : MethodId :=
  match d with
  | .callees => e.caller
  | .callers => e.callee

/-- The other direction. -/
def opposite : Direction → Direction
  | .callees => .callers
  | .callers => .callees

@[simp] theorem opposite_opposite (d : Direction) : d.opposite.opposite = d := by
  cases d <;> rfl

@[simp] theorem source_opposite (d : Direction) (e : CallEdge) : d.opposite.source e = d.target e := by
  cases d <;> rfl

@[simp] theorem target_opposite (d : Direction) (e : CallEdge) : d.opposite.target e = d.source e := by
  cases d <;> rfl

/-- The methods that the calls come to, from the one where they start. -/
def visited (d : Direction) (start : MethodId) (es : List CallEdge) : List MethodId :=
  start :: es.map d.target

theorem visited_cons (d : Direction) (start : MethodId) (e : CallEdge) (es : List CallEdge) :
    d.visited start (e :: es) = start :: d.visited (d.target e) es :=
  rfl

end Direction

namespace CallGraph

/-- The call can be followed from the method with that number. -/
def Step (g : CallGraph) (d : Direction) (i : MethodId) (e : CallEdge) : Prop :=
  ∃ m, g.methods[i]? = some m ∧ e ∈ d.edges m

/-- The calls lead from one method to another, each followed from the method that those before it came
to. -/
inductive Walk (g : CallGraph) (d : Direction) : MethodId → List CallEdge → MethodId → Prop
  | nil (i : MethodId) : Walk g d i [] i
  | cons {i : MethodId} {e : CallEdge} {es : List CallEdge} {j : MethodId} (he : g.Step d i e)
    (h : Walk g d (d.target e) es j) : Walk g d i (e :: es) j

/-- The calls lead from one method to another, and come to no method twice. -/
structure SimplePath (g : CallGraph) (d : Direction) (i : MethodId) (es : List CallEdge)
    (j : MethodId) : Prop where
  walk : g.Walk d i es j
  nodup : (d.visited i es).Nodup

variable {g : CallGraph} {d : Direction} {i j k : MethodId} {e : CallEdge} {es fs : List CallEdge}

/-! ## Steps -/

theorem CallsAgree.step_iff (h : g.CallsAgree) : g.Step d i e ↔ d.source e = i ∧ g.HasEdge e := by
  cases d with
  | callees =>
    constructor
    · rintro ⟨m, hm, he⟩
      exact (h.mem_forward_iff_hasEdge hm).1 he
    · rintro ⟨rfl, m, hm, he⟩
      exact ⟨m, hm, he⟩
  | callers =>
    constructor
    · rintro ⟨m, hm, he⟩
      exact (h.reverse hm e).1 he
    · rintro ⟨rfl, he⟩
      have hm := Array.getElem?_eq_getElem (h.callee_lt he)
      exact ⟨_, hm, (h.reverse hm e).2 ⟨rfl, he⟩⟩

/-- A call leads to a method of the graph. -/
theorem CallsAgree.target_lt (h : g.CallsAgree) (he : g.Step d i e) : d.target e < g.methods.size := by
  have hedge := (h.step_iff.1 he).2
  cases d with
  | callees => exact h.callee_lt hedge
  | callers => exact hedge.caller_lt

/-- No call stands twice among those to follow from a method. -/
theorem CallsAgree.edges_nodup (h : g.CallsAgree) {m : MethodNode} (hm : g.methods[i]? = some m) :
    (d.edges m).Nodup := by
  cases d with
  | callees => exact h.forward_nodup hm
  | callers => exact h.reverse_nodup hm

/-! ## Walks -/

namespace Walk

theorem append (h : g.Walk d i es j) (h' : g.Walk d j fs k) : g.Walk d i (es ++ fs) k := by
  induction h with
  | nil => exact h'
  | cons he _ ih => exact .cons he (ih h')

theorem snoc (h : g.Walk d i es j) (he : g.Step d j e) : g.Walk d i (es ++ [e]) (d.target e) :=
  h.append (.cons he (.nil _))

/-- The calls and their start determine the end. -/
theorem end_unique (h : g.Walk d i es j) (h' : g.Walk d i es k) : j = k := by
  induction h with
  | nil =>
    cases h'
    rfl
  | cons _ _ ih =>
    cases h' with
    | cons _ h' => exact ih h'

/-- A walk stays where it starts, or its last call leads to its end. -/
theorem eq_or_exists_step (h : g.Walk d i es j) : i = j ∨ ∃ k e, g.Step d k e ∧ d.target e = j := by
  induction h with
  | nil => exact .inl rfl
  | @cons i e es j he _ ih =>
    rcases ih with rfl | hlast
    · exact .inr ⟨i, e, he, rfl⟩
    · exact .inr hlast

theorem end_mem_visited (h : g.Walk d i es j) : j ∈ d.visited i es := by
  induction h with
  | nil i => exact List.mem_cons_self
  | cons he _ ih => exact List.mem_cons_of_mem _ ih

/-- A walk within the graph comes to methods of the graph only. -/
theorem visited_lt (h : g.Walk d i es j) (hg : g.CallsAgree) (hi : i < g.methods.size) :
    ∀ x ∈ d.visited i es, x < g.methods.size := by
  induction h with
  | nil i => simpa [Direction.visited] using hi
  | cons he _ ih =>
    intro x hx
    rcases List.mem_cons.1 hx with rfl | hx
    · exact hi
    · exact ih (hg.target_lt he) x hx

/-- A walk read backwards leads back. -/
theorem reverse (h : g.Walk d i es j) (hg : g.CallsAgree) : g.Walk d.opposite j es.reverse i := by
  induction h with
  | nil i => exact .nil i
  | @cons i e es j he _ ih =>
    obtain ⟨hsource, hedge⟩ := hg.step_iff.1 he
    have hback : g.Step d.opposite (d.target e) e := hg.step_iff.2 ⟨d.source_opposite e, hedge⟩
    have hwalk := ih.snoc hback
    rwa [d.target_opposite, hsource, ← List.reverse_cons] at hwalk

theorem visited_reverse (h : g.Walk d i es j) (hg : g.CallsAgree) :
    d.opposite.visited j es.reverse = (d.visited i es).reverse := by
  induction h with
  | nil i => rfl
  | @cons i e es j he _ ih =>
    have hsource := (hg.step_iff.1 he).1
    calc d.opposite.visited j (e :: es).reverse
        = d.opposite.visited j es.reverse ++ [d.opposite.target e] := by
          simp [Direction.visited]
      _ = (d.visited (d.target e) es).reverse ++ [i] := by rw [ih, d.target_opposite, hsource]
      _ = (d.visited i (e :: es)).reverse := by rw [d.visited_cons, List.reverse_cons]

end Walk

/-! ## Simple paths -/

theorem simplePath_cons_iff : g.SimplePath d i (e :: es) j ↔
    g.Step d i e ∧ i ∉ d.visited (d.target e) es ∧ g.SimplePath d (d.target e) es j := by
  constructor
  · rintro ⟨hwalk, hnodup⟩
    cases hwalk with
    | cons he hwalk =>
      rw [d.visited_cons, List.nodup_cons] at hnodup
      exact ⟨he, hnodup.1, hwalk, hnodup.2⟩
  · rintro ⟨he, hi, hwalk, hnodup⟩
    exact ⟨.cons he hwalk, List.nodup_cons.2 ⟨hi, hnodup⟩⟩

namespace SimplePath

theorem nil (i : MethodId) : g.SimplePath d i [] i :=
  ⟨.nil i, List.nodup_singleton i⟩

/-- What is left of a simple path after a method on it is a simple path from there. -/
theorem exists_of_mem_visited (h : g.SimplePath d i es j) (hk : k ∈ d.visited i es) :
    ∃ fs, g.SimplePath d k fs j := by
  induction es generalizing i with
  | nil =>
    obtain rfl := List.mem_singleton.1 hk
    exact ⟨[], h⟩
  | cons e es ih =>
    rcases List.mem_cons.1 hk with rfl | hk
    · exact ⟨e :: es, h⟩
    · exact ih (simplePath_cons_iff.1 h).2.2 hk

/-- A simple path has fewer calls than the graph has methods. -/
theorem length_lt (h : g.SimplePath d i es j) (hg : g.CallsAgree) (hi : i < g.methods.size) :
    es.length < g.methods.size := by
  have hsub : d.visited i es ⊆ List.range g.methods.size := fun x hx =>
    List.mem_range.2 (h.walk.visited_lt hg hi x hx)
  have hlen := (List.subperm_of_subset h.nodup hsub).length_le
  rw [List.length_range, Direction.visited, List.length_cons, List.length_map] at hlen
  exact hlen

end SimplePath

/-- What a walk leads to, a simple path leads to. -/
theorem Walk.exists_simplePath (h : g.Walk d i es j) : ∃ fs, g.SimplePath d i fs j := by
  induction h with
  | nil i => exact ⟨[], .nil i⟩
  | @cons i e es j he _ ih =>
    obtain ⟨fs, hfs⟩ := ih
    by_cases hi : i ∈ d.visited (d.target e) fs
    · -- The path comes back to its start: only what follows is kept.
      exact hfs.exists_of_mem_visited hi
    · exact ⟨e :: fs, simplePath_cons_iff.2 ⟨he, hi, hfs⟩⟩

theorem SimplePath.reverse (h : g.SimplePath d i es j) (hg : g.CallsAgree) :
    g.SimplePath d.opposite j es.reverse i where
  walk := h.walk.reverse hg
  nodup := by
    rw [h.walk.visited_reverse hg]
    exact List.nodup_reverse.2 h.nodup

/-- A simple path read backwards is a simple path in the opposite direction. -/
theorem CallsAgree.simplePath_reverse_iff (hg : g.CallsAgree) :
    g.SimplePath d.opposite j es.reverse i ↔ g.SimplePath d i es j := by
  refine ⟨fun h => ?_, fun h => h.reverse hg⟩
  have := h.reverse hg
  rwa [d.opposite_opposite, List.reverse_reverse] at this

end CallGraph

end CallAtlas.Graph
