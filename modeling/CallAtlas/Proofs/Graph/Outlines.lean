import CallAtlas.Proofs.Graph.CallTrees
import CallAtlas.Proofs.Graph.Names

/-!
# Call trees by names

Two graphs may number the same methods differently. The outline of a call tree has the names in place of
the numbers; it depends on the calls by name only.

* `Outline`, `CallTree.outline`: what a tree shows.
* `map_named_branches_eq`: the calls that two trees follow are the same by name, and in one order, if each
  graph has the calls that the other one's tree follows.
* `outline_grow_eq`: then the trees have one outline.
-/

namespace CallAtlas.Graph

open Text (leKey)
open Trace (NamedCall)

/-- What a tree shows of its nodes: the type of the call to the method, the name and the depth. -/
inductive Outline where
  | node (callType : Option String) (method : MethodName) (depth : Nat) (children : List Outline)

namespace CallTree

mutual

/-- The tree with names only. -/
def outline : CallTree → Outline
  | node v cs => .node (v.edge.map (·.callType)) v.name v.depth (forestOutline cs)

/-- The trees with names only. -/
def forestOutline : List CallTree → List Outline
  | [] => []
  | t :: ts => t.outline :: forestOutline ts

end

theorem forestOutline_eq_map (ts : List CallTree) : forestOutline ts = ts.map outline := by
  induction ts with
  | nil => rfl
  | cons t ts ih => rw [forestOutline, ih, List.map_cons]

end CallTree

/-! ## Two graphs -/

namespace CallGraph

section

variable {G H : CallGraph} {path path' : List MethodId} {id id' : MethodId}

/-- A call that one tree follows, the tree at the same place of the other graph follows too, if that
graph has it. -/
theorem mem_map_named_branches (hG : G.WellFormed) (hH : H.WellFormed)
    (hpath : (id :: path).map G.nameOf? = (id' :: path').map H.nameOf?) {e : CallEdge}
    (he : e ∈ G.branches .callees path id) (hcalls : H.Calls (G.named e)) :
    G.named e ∈ (H.branches .callees path' id').map H.named := by
  obtain ⟨hstep, htarget⟩ := mem_branches_iff.1 he
  obtain ⟨hsource, hedge⟩ := hG.step_iff.1 hstep
  obtain ⟨e', hedge', hnamed⟩ := hH.calls_iff.1 hcalls
  have hcaller : H.nameOf? e'.caller = some (G.named e).caller := by
    rw [← hnamed]
    exact WellFormed.nameOf?_caller hedge'
  have hcallee : H.nameOf? e'.callee = some (G.named e).callee := by
    rw [← hnamed]
    exact hH.nameOf?_callee hedge'
  have hid : G.nameOf? id = some (G.named e).caller := by
    rw [← hsource]
    exact WellFormed.nameOf?_caller hedge
  have hid' : H.nameOf? id' = some (G.named e).caller := by
    rw [← hid]
    exact (List.cons.inj hpath).1.symm
  refine List.mem_map.2 ⟨e', mem_branches_iff.2 ⟨?_, ?_⟩, hnamed⟩
  · exact hH.step_iff.2 ⟨hH.nameOf?_injective hcaller hid', hedge'⟩
  · show e'.callee ∉ id' :: path'
    rw [hH.mem_iff_mem_map_nameOf? hcallee, ← hpath, ← hG.mem_iff_mem_map_nameOf? (hG.nameOf?_callee hedge)]
    exact htarget

/-- The calls that a tree follows are in the order of their types and the names of the methods called. -/
theorem WellFormed.pairwise_map_named_branches (h : G.WellFormed) :
    ((G.branches .callees path id).map G.named).Pairwise fun a b =>
      leKey [a.callType, a.callee.qualified] [b.callType, b.callee.qualified] = true := by
  have hkey : ∀ e ∈ G.branches .callees path id,
      G.edgeKey .callees e = [(G.named e).callType, (G.named e).callee.qualified] := fun e he => by
    have hedge := h.hasEdge_of_mem_branches he
    show [e.callType, ((G.nameOf? e.callee).map (·.qualified)).getD ""] = _
    rw [h.nameOf?_callee hedge]
    rfl
  rw [List.pairwise_map]
  refine pairwise_branches.imp_of_mem fun {a b} ha hb hab => ?_
  rwa [hkey a ha, hkey b hb] at hab

theorem WellFormed.nodup_map_named_branches (h : G.WellFormed) :
    ((G.branches .callees path id).map G.named).Nodup := by
  refine h.nodup_branches.map_on fun a ha b hb hab => ?_
  exact h.named_injective (h.hasEdge_of_mem_branches ha) (h.hasEdge_of_mem_branches hb) hab

/-- Type and method called tell the calls of one caller apart. -/
theorem Legible.call_eq_of_key (h : G.Legible) {a b : NamedCall} (hcaller : a.caller = b.caller)
    {i j : MethodId} (hi : G.nameOf? i = some a.callee) (hj : G.nameOf? j = some b.callee)
    (hkey : [a.callType, a.callee.qualified] = [b.callType, b.callee.qualified]) : a = b := by
  simp only [List.cons.injEq, and_true] at hkey
  have hcallee := h.eq_of_qualified_eq hi hj hkey.2
  obtain ⟨t, c, m⟩ := a
  obtain ⟨t', c', m'⟩ := b
  dsimp only at hkey hcallee hcaller
  rw [hkey.1, hcallee, hcaller]

/-- The calls that two trees follow are the same by name, and in one order. -/
theorem map_named_branches_eq (hG : G.Legible) (hH : H.WellFormed)
    (hsub : ∀ c, H.Calls c → G.Calls c)
    (hpath : (id :: path).map G.nameOf? = (id' :: path').map H.nameOf?)
    (hfollowed : ∀ e ∈ G.branches .callees path id, H.Calls (G.named e)) :
    (G.branches .callees path id).map G.named = (H.branches .callees path' id').map H.named := by
  have hsame : ∀ c, c ∈ (G.branches .callees path id).map G.named ↔
      c ∈ (H.branches .callees path' id').map H.named := by
    intro c
    constructor
    · intro hc
      obtain ⟨e, he, rfl⟩ := List.mem_map.1 hc
      exact mem_map_named_branches hG.toWellFormed hH hpath he (hfollowed e he)
    · intro hc
      obtain ⟨e, he, rfl⟩ := List.mem_map.1 hc
      have hedge := hH.hasEdge_of_mem_branches he
      exact mem_map_named_branches hH hG.toWellFormed hpath.symm he (hsub _ (hH.calls_iff.2 ⟨e, hedge, rfl⟩))
  have hcaller : ∀ c ∈ (G.branches .callees path id).map G.named,
      G.nameOf? id = some c.caller ∧ ∃ j, G.nameOf? j = some c.callee := by
    intro c hc
    obtain ⟨e, he, rfl⟩ := List.mem_map.1 hc
    obtain ⟨rfl, hedge⟩ := hG.step_iff.1 (mem_branches_iff.1 he).1
    exact ⟨WellFormed.nameOf?_caller hedge, e.callee, hG.nameOf?_callee hedge⟩
  refine List.Perm.eq_of_pairwise (fun a b ha hb hab hba => ?_) hG.pairwise_map_named_branches
    hH.pairwise_map_named_branches
    ((List.perm_ext_iff_of_nodup hG.nodup_map_named_branches hH.nodup_map_named_branches).2 hsame)
  obtain ⟨ha, i, hi⟩ := hcaller a ha
  obtain ⟨hb, j, hj⟩ := hcaller b ((hsame b).2 hb)
  exact hG.call_eq_of_key (Option.some.inj (ha.symm.trans hb)) hi hj (Text.isOrder_leKey.antisymm hab hba)

/-- What is the same function of the same values is the same, item by item. -/
theorem map_eq_map_of_map_eq {α β γ δ : Type} {l : List α} {l' : List β} {f : α → γ} {f' : β → γ}
    {F : α → δ} {F' : β → δ} (h : l.map f = l'.map f')
    (hF : ∀ a ∈ l, ∀ b ∈ l', f a = f' b → F a = F' b) : l.map F = l'.map F' := by
  induction l generalizing l' with
  | nil =>
    obtain rfl := List.map_eq_nil_iff.1 h.symm
    rfl
  | cons a l ih =>
    cases l' with
    | nil => simp at h
    | cons b l' =>
      rw [List.map_cons, List.map_cons, List.cons.injEq] at h
      rw [List.map_cons, List.map_cons, hF a List.mem_cons_self b List.mem_cons_self h.1,
        ih h.2 fun a ha b hb => hF a (List.mem_cons_of_mem _ ha) b (List.mem_cons_of_mem _ hb)]

/-- Nodes that paths of the same names lead to, by calls of one type, show the same. -/
theorem outline_node_eq {edge edge' : Option CallEdge} {cs cs' : List CallTree}
    (hpath : (id :: path).map G.nameOf? = (id' :: path').map H.nameOf?)
    (hedge : edge.map (·.callType) = edge'.map (·.callType))
    (hcs : CallTree.forestOutline cs = CallTree.forestOutline cs') :
    (CallTree.node (G.visitAt path id edge) cs).outline =
      (CallTree.node (H.visitAt path' id' edge') cs').outline := by
  have hname : G.nameOf? id = H.nameOf? id' := (List.cons.inj hpath).1
  have hlength : path.length = path'.length := by simpa using congrArg List.length hpath
  simp only [CallTree.outline, visitAt, hname, hlength, hedge, hcs]

/-- **Trees of the same calls have one outline.** The second graph has calls of the first one only, and
among them those to the nodes of the tree; the trees start at methods of one name, to which paths of the
same names lead. -/
theorem outline_grow_eq (hG : G.Legible) (hH : H.WellFormed)
    (hsub : ∀ c, H.Calls c → G.Calls c) {levels : Nat} {edge edge' : Option CallEdge}
    (hpath : (id :: path).map G.nameOf? = (id' :: path').map H.nameOf?)
    (hedge : edge.map (·.callType) = edge'.map (·.callType))
    (hcarried : ∀ v ∈ (G.grow .callees levels path id edge).descendants, ∀ e, v.edge = some e →
      H.Calls (G.named e)) :
    (G.grow .callees levels path id edge).outline = (H.grow .callees levels path' id' edge').outline := by
  induction levels generalizing path id edge path' id' edge' with
  | zero => exact outline_node_eq hpath hedge rfl
  | succ levels ih =>
    have hchild : ∀ e ∈ G.branches .callees path id,
        ∀ v ∈ (G.grow .callees levels (id :: path) e.callee (some e)).toList,
          v ∈ (G.grow .callees (levels + 1) path id edge).descendants := fun e he v hv => by
      rw [descendants_grow_succ]
      exact List.mem_flatMap.2 ⟨e, he, hv⟩
    have hfollowed : ∀ e ∈ G.branches .callees path id, H.Calls (G.named e) := fun e he => by
      refine hcarried (G.visitAt (id :: path) e.callee (some e)) (hchild e he _ ?_) e rfl
      rw [CallTree.toList_eq_cons, visit_grow]
      exact List.mem_cons_self
    have hnamed := map_named_branches_eq hG hH hsub hpath hfollowed
    have hchildren : (G.branches .callees path id).map (fun e =>
          (G.grow .callees levels (id :: path) e.callee (some e)).outline) =
        (H.branches .callees path' id').map fun e =>
          (H.grow .callees levels (id' :: path') e.callee (some e)).outline := by
      refine map_eq_map_of_map_eq hnamed fun e he e' he' heq => ih ?_ ?_ fun v hv => ?_
      · have hcallee := hG.nameOf?_callee (hG.hasEdge_of_mem_branches he)
        have hcallee' := hH.nameOf?_callee (hH.hasEdge_of_mem_branches he')
        rw [List.map_cons, hcallee, heq, ← hcallee', hpath, ← List.map_cons]
      · exact congrArg some (congrArg NamedCall.callType heq)
      · refine hcarried v (hchild e he v ?_)
        rw [CallTree.toList_eq_cons]
        exact List.mem_cons_of_mem _ hv
    refine outline_node_eq hpath hedge ?_
    rw [CallTree.forestOutline_eq_map, CallTree.forestOutline_eq_map, List.map_map, List.map_map]
    exact hchildren

end

end CallGraph

end CallAtlas.Graph
