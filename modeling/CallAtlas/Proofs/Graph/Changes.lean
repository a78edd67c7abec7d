import CallAtlas.Proofs.Graph.WellFormed

/-!
# Changes of a call graph

What each change of a call graph can do, and that it keeps the graph well-formed.

* `withClass`, `withMethod`, `withEntrypoint`, `withEdge`: the graph with one thing more.
* `addClass_cases`, `addMethod_cases`, `addEntrypoint_cases`, `addEdge_cases`: a change finds what it is
  to add, or adds it, or is refused; found or refused, the graph stays.
* `WellFormed.addClass`, `WellFormed.addMethod`, `WellFormed.addEntrypoint`, `WellFormed.addEdge`,
  `WellFormed.freeze`: the graph after a change is well-formed, also if the change was refused.
* `classList_withClass`, `methodList_withMethod`, `hasEdge_withEdge` and their like: the names and the
  calls that there are with one thing more.
-/

namespace CallAtlas.Graph

/-! ## Arrays after a change -/

private theorem getElem?_push_eq_some_iff {α : Type} {xs : Array α} {x y : α} {i : Nat} :
    (xs.push x)[i]? = some y ↔ xs[i]? = some y ∨ i = xs.size ∧ y = x := by
  rw [Array.getElem?_push]
  split
  · subst i
    simp [eq_comm]
  · simp [*]

private theorem getElem?_modify_eq_some_iff {α : Type} {xs : Array α} {f : α → α} {y : α} {i j : Nat} :
    (xs.modify j f)[i]? = some y ↔ ∃ x, xs[i]? = some x ∧ y = if i = j then f x else x := by
  rw [Array.getElem?_modify]
  by_cases h : j = i
  · subst h
    cases xs[j]? <;> simp [eq_comm]
  · simp [h, Ne.symm h]

/-- A sum over an array grows by one if its term at one position does. -/
private theorem sum_modify_add_one {α : Type} (xs : List α) {f : α → α} {count : α → Nat} {i : Nat}
    (hi : i < xs.length) (hf : ∀ x, count (f x) = count x + 1) :
    ((xs.modify i f).map count).sum = (xs.map count).sum + 1 := by
  induction xs generalizing i with
  | nil => simp at hi
  | cons x xs ih =>
    cases i with
    | zero =>
      simp [hf]
      omega
    | succ i =>
      have := ih (i := i) (by simpa using hi)
      simp [this]
      omega

/-- What one position holds can change without a change of what is read off it. -/
private theorem map_modify_of_eq {α β : Type} (xs : List α) {f : α → α} {read : α → β} (i : Nat)
    (hf : ∀ x, read (f x) = read x) : (xs.modify i f).map read = xs.map read := by
  induction xs generalizing i with
  | nil => simp
  | cons x xs ih =>
    cases i with
    | zero => simp [hf]
    | succ i => simp [ih i]

namespace CallGraph

variable {g : CallGraph}

/-! ## One thing more -/

/-- The graph with one class more. -/
def withClass (g : CallGraph) (name : String) : CallGraph :=
  { g with
    classIndex := g.classIndex.push { name, id := g.classes.size }
    classes := g.classes.push { id := g.classes.size, name } }

/-- The graph with one method more, in the class `owner`. -/
def withMethod (g : CallGraph) (owner : ClassNode) (signature : String) : CallGraph :=
  { g with
    classes := g.classes.modify owner.id fun c =>
      { c with members := ⟨signature, g.methods.size⟩ :: c.members }
    methods := g.methods.push
      { id := g.methods.size, classId := owner.id, name := ⟨owner.name, signature⟩ } }

/-- The graph with one entry point more. -/
def withEntrypoint (g : CallGraph) (id : MethodId) : CallGraph :=
  { g with entryIds := id :: g.entryIds, entrypoints := g.entrypoints.push id }

/-- The graph with one call more. -/
def withEdge (g : CallGraph) (e : CallEdge) : CallGraph :=
  { g with
    methods := (g.methods.modify e.caller fun m => { m with forward := e :: m.forward }).modify e.callee
      fun m => { m with reverse := e :: m.reverse }
    numEdges := g.numEdges + 1 }

/-! ## What a change can do -/

theorem addClass_cases (g : CallGraph) (name : String) :
    (∃ c, g.class? name = some c ∧ g.addClass name = (g, .ok c.id)) ∨
    (g.class? name = none ∧ g.frozen = true ∧ g.addClass name = (g, .error .frozen)) ∨
    (g.class? name = none ∧ g.frozen = false ∧
      g.addClass name = (g.withClass name, .ok g.classes.size)) := by
  unfold addClass
  cases hc : g.class? name with
  | some c => exact .inl ⟨c, rfl, rfl⟩
  | none => cases hf : g.frozen <;> simp [withClass, hf]

theorem addMethod_cases (g : CallGraph) (classId : ClassId) (signature : String) :
    (g.classes[classId]? = none ∧ g.addMethod classId signature = (g, .error .unknownClass)) ∨
    ∃ c, g.classes[classId]? = some c ∧
      ((∃ id, c.find? signature = some id ∧ g.addMethod classId signature = (g, .ok id)) ∨
      (c.find? signature = none ∧ g.frozen = true ∧
        g.addMethod classId signature = (g, .error .frozen)) ∨
      (c.find? signature = none ∧ g.frozen = false ∧ (c.id = classId →
        g.addMethod classId signature = (g.withMethod c signature, .ok g.methods.size)))) := by
  unfold addMethod
  cases hc : g.classes[classId]? with
  | none => exact .inl ⟨rfl, rfl⟩
  | some c =>
    refine .inr ⟨c, rfl, ?_⟩
    dsimp only
    cases hid : c.find? signature with
    | some id => exact .inl ⟨id, rfl, rfl⟩
    | none =>
      cases hf : g.frozen
      · refine .inr (.inr ⟨rfl, rfl, ?_⟩)
        rintro rfl
        simp [withMethod, hf]
      · exact .inr (.inl ⟨rfl, rfl, rfl⟩)

theorem addEntrypoint_cases (g : CallGraph) (id : MethodId) :
    (g.frozen = true ∧ g.addEntrypoint id = (g, .error .frozen)) ∨
    (g.frozen = false ∧ g.methods.size ≤ id ∧ g.addEntrypoint id = (g, .error .unknownMethod)) ∨
    (g.frozen = false ∧ id < g.methods.size ∧ id ∈ g.entryIds ∧
      g.addEntrypoint id = (g, .ok false)) ∨
    (g.frozen = false ∧ id < g.methods.size ∧ id ∉ g.entryIds ∧
      g.addEntrypoint id = (g.withEntrypoint id, .ok true)) := by
  unfold addEntrypoint
  cases hf : g.frozen
  · by_cases hid : g.methods.size ≤ id
    · simp [hid]
    · by_cases hmem : id ∈ g.entryIds
      · simp [isEntrypoint, hid, hmem, Nat.lt_of_not_le hid]
      · simp [isEntrypoint, hf, hid, hmem, Nat.lt_of_not_le hid, withEntrypoint]
  · simp

theorem addEdge_cases (g : CallGraph) (e : CallEdge) :
    (g.frozen = true ∧ g.addEdge e = (g, .error .frozen)) ∨
    (g.frozen = false ∧ (g.methods.size ≤ e.caller ∨ g.methods.size ≤ e.callee) ∧
      g.addEdge e = (g, .error .unknownMethod)) ∨
    (g.frozen = false ∧ g.HasEdge e ∧ g.addEdge e = (g, .ok false)) ∨
    (g.frozen = false ∧ ¬g.HasEdge e ∧ e.caller < g.methods.size ∧ e.callee < g.methods.size ∧
      g.addEdge e = (g.withEdge e, .ok true)) := by
  unfold addEdge
  cases hf : g.frozen
  · right
    simp only [Bool.false_eq_true, if_false, true_and]
    cases hm : g.methods[e.caller]? with
    | none => exact .inl ⟨.inl (Array.getElem?_eq_none_iff.1 hm), rfl⟩
    | some m =>
      have hcaller := (Array.getElem?_eq_some_iff.1 hm).1
      have hedge : g.HasEdge e ↔ e ∈ m.forward := by
        refine ⟨fun ⟨n, hn, he⟩ => ?_, fun he => ⟨m, hm, he⟩⟩
        rw [hm] at hn
        cases hn
        exact he
      by_cases hcallee : g.methods.size ≤ e.callee
      · exact .inl ⟨.inr hcallee, by simp [hcallee]⟩
      · by_cases he : e ∈ m.forward
        · exact .inr (.inl ⟨hedge.2 he, by simp [hcallee, he]⟩)
        · exact .inr (.inr ⟨mt hedge.1 he, hcaller, Nat.lt_of_not_le hcallee,
            by simp [hf, hcallee, he, withEdge]⟩)
  · exact .inl ⟨rfl, rfl⟩

/-! ## Names and calls after a change -/

@[simp] theorem classList_withClass (name : String) :
    (g.withClass name).classList = g.classList ++ [name] := by
  simp [withClass, classList]

@[simp] theorem classList_withMethod (owner : ClassNode) (signature : String) :
    (g.withMethod owner signature).classList = g.classList := by
  unfold withMethod classList
  rw [Array.toList_modify, map_modify_of_eq]
  exact fun c => rfl

@[simp] theorem methodList_withMethod (owner : ClassNode) (signature : String) :
    (g.withMethod owner signature).methodList = g.methodList ++ [⟨owner.name, signature⟩] := by
  simp [withMethod, methodList]

@[simp] theorem methodList_withEdge (e : CallEdge) : (g.withEdge e).methodList = g.methodList := by
  unfold withEdge methodList
  rw [Array.toList_modify, map_modify_of_eq, Array.toList_modify, map_modify_of_eq]
  · exact fun m => rfl
  · exact fun m => rfl

/-- A new method makes no calls. -/
@[simp] theorem hasEdge_withMethod {owner : ClassNode} {signature : String} {e : CallEdge} :
    (g.withMethod owner signature).HasEdge e ↔ g.HasEdge e := by
  constructor
  · rintro ⟨n, hn, he⟩
    rcases getElem?_push_eq_some_iff.1 hn with hn | ⟨-, rfl⟩
    · exact ⟨n, hn, he⟩
    · cases he
  · rintro ⟨n, hn, he⟩
    exact ⟨n, getElem?_push_eq_some_iff.2 (.inl hn), he⟩

private theorem methods_withEdge {e : CallEdge} {i : MethodId} {m : MethodNode} :
    (g.withEdge e).methods[i]? = some m ↔ ∃ n, g.methods[i]? = some n ∧ m = { n with
      forward := if i = e.caller then e :: n.forward else n.forward
      reverse := if i = e.callee then e :: n.reverse else n.reverse } := by
  rw [withEdge, getElem?_modify_eq_some_iff]
  constructor
  · rintro ⟨n, hn, rfl⟩
    obtain ⟨k, hk, rfl⟩ := getElem?_modify_eq_some_iff.1 hn
    refine ⟨k, hk, ?_⟩
    split <;> split <;> rfl
  · rintro ⟨k, hk, rfl⟩
    refine ⟨_, getElem?_modify_eq_some_iff.2 ⟨k, hk, rfl⟩, ?_⟩
    split <;> split <;> rfl

theorem hasEdge_withEdge {e : CallEdge} (hcaller : e.caller < g.methods.size) {x : CallEdge} :
    (g.withEdge e).HasEdge x ↔ x = e ∨ g.HasEdge x := by
  constructor
  · rintro ⟨m, hm, hx⟩
    obtain ⟨n, hn, rfl⟩ := methods_withEdge.1 hm
    dsimp only at hx
    split at hx
    · rcases List.mem_cons.1 hx with hx | hx
      exacts [.inl hx, .inr ⟨n, hn, hx⟩]
    · exact .inr ⟨n, hn, hx⟩
  · rintro (rfl | ⟨n, hn, hx⟩)
    · exact ⟨_, methods_withEdge.2 ⟨_, Array.getElem?_eq_getElem hcaller, rfl⟩, by simp⟩
    · refine ⟨_, methods_withEdge.2 ⟨n, hn, rfl⟩, ?_⟩
      dsimp only
      split
      exacts [List.mem_cons_of_mem _ hx, hx]

end CallGraph

/-! ## Well-formed graphs stay well-formed -/

section

variable {g g' : CallGraph}

/-- Names agree in a graph that differs in its entry points and counts only. -/
private theorem CallGraph.NamesAgree.congr (h : g.NamesAgree) (hindex : g'.classIndex = g.classIndex)
    (hclasses : g'.classes = g.classes) (hmethods : g'.methods = g.methods) : g'.NamesAgree := by
  obtain ⟨index, classes, methods⟩ := g'
  cases hindex
  cases hclasses
  cases hmethods
  exact ⟨h.classIndex, h.classId, h.className, h.methodId, h.owner, h.signatures, h.members⟩

/-- Calls agree in a graph that differs in its classes and entry points only. -/
private theorem CallGraph.CallsAgree.congr (h : g.CallsAgree) (hmethods : g'.methods = g.methods)
    (hnum : g'.numEdges = g.numEdges) : g'.CallsAgree := by
  obtain ⟨index, classes, methods, entrypoints, entryIds, numEdges⟩ := g'
  cases hmethods
  cases hnum
  exact ⟨h.caller, h.callee_lt, h.reverse, h.forward_nodup, h.reverse_nodup, h.numEdges_forward,
    h.numEdges_reverse⟩

/-- Entry points agree in a graph that has these, and no method less. -/
private theorem CallGraph.EntriesAgree.congr (h : g.EntriesAgree) (hids : g'.entryIds = g.entryIds)
    (hentrypoints : g'.entrypoints = g.entrypoints) (hsize : g.methods.size ≤ g'.methods.size) :
    g'.EntriesAgree := by
  constructor
  case entryIds =>
    rw [hids, hentrypoints]
    exact h.entryIds
  case entrypoints_nodup =>
    rw [hentrypoints]
    exact h.entrypoints_nodup
  case entrypoints_lt =>
    intro id hid
    rw [hentrypoints] at hid
    exact Nat.lt_of_lt_of_le (h.entrypoints_lt id hid) hsize

end

namespace CallGraph.WellFormed

variable {g : CallGraph}

theorem withClass (h : g.WellFormed) {name : String} (hnew : g.class? name = none) :
    (g.withClass name).WellFormed := by
  have hfree : ∀ (i : ClassId) (c : ClassNode), g.classes[i]? = some c → c.name ≠ name := by
    rintro i c hc rfl
    rw [h.class?_eq_some_iff.2 ⟨i, hc, rfl⟩] at hnew
    cases hnew
  refine ⟨?_, h.toCallsAgree.congr rfl rfl, h.toEntriesAgree.congr rfl rfl (Nat.le_refl _)⟩
  constructor
  case classIndex =>
    rw [CallGraph.withClass, Array.toList_push, Array.toList_push, List.map_append, h.classIndex]
    rfl
  case classId =>
    intro i c hc
    rcases getElem?_push_eq_some_iff.1 hc with hc | ⟨rfl, rfl⟩
    · exact h.classId hc
    · rfl
  case className =>
    intro i j c d hc hd hcd
    rcases getElem?_push_eq_some_iff.1 hc with hc | ⟨rfl, rfl⟩ <;>
      rcases getElem?_push_eq_some_iff.1 hd with hd | ⟨rfl, rfl⟩
    · exact h.className hc hd hcd
    · exact absurd hcd (hfree i c hc)
    · exact absurd hcd.symm (hfree j d hd)
    · rfl
  case methodId => exact h.methodId
  case owner =>
    intro i m hm
    obtain ⟨c, hc, hname⟩ := h.owner hm
    exact ⟨c, getElem?_push_eq_some_iff.2 (.inl hc), hname⟩
  case signatures =>
    intro i c hc
    rcases getElem?_push_eq_some_iff.1 hc with hc | ⟨rfl, rfl⟩
    · exact h.signatures hc
    · exact List.nodup_nil
  case members =>
    intro i c hc x
    rcases getElem?_push_eq_some_iff.1 hc with hc | ⟨rfl, rfl⟩
    · exact h.members hc x
    · refine ⟨fun hx => by simp at hx, ?_⟩
      rintro ⟨m, hm, hi, -⟩
      exact absurd hi (Nat.ne_of_lt (h.classId_lt hm))

theorem addClass (h : g.WellFormed) (name : String) : (g.addClass name).1.WellFormed := by
  rcases g.addClass_cases name with ⟨c, -, heq⟩ | ⟨-, -, heq⟩ | ⟨hnew, -, heq⟩ <;> rw [heq]
  exacts [h, h, h.withClass hnew]

private theorem classes_withMethod {owner : ClassNode} (howner : g.classes[owner.id]? = some owner)
    {signature : String} {i : ClassId} {c : ClassNode}
    (hc : (g.withMethod owner signature).classes[i]? = some c) :
    i ≠ owner.id ∧ g.classes[i]? = some c ∨
      i = owner.id ∧ c = { owner with members := ⟨signature, g.methods.size⟩ :: owner.members } := by
  obtain ⟨d, hd, rfl⟩ := getElem?_modify_eq_some_iff.1 hc
  split
  · subst i
    rw [howner] at hd
    cases hd
    exact .inr ⟨rfl, rfl⟩
  · exact .inl ⟨‹_›, hd⟩

private theorem namesAgree_withMethod (h : g.WellFormed) {owner : ClassNode} {signature : String}
    (howner : g.classes[owner.id]? = some owner) (hnew : owner.find? signature = none) :
    (g.withMethod owner signature).NamesAgree := by
  have hfree : ∀ x ∈ owner.members, x.signature ≠ signature := by
    rintro x hx rfl
    rw [(h.find?_eq_some_iff howner).2 ((h.members howner x).1 hx)] at hnew
    cases hnew
  constructor
  case classIndex =>
    show g.classIndex.toList = _
    rw [CallGraph.withMethod, Array.toList_modify, map_modify_of_eq, h.classIndex]
    exact fun c => rfl
  case classId =>
    intro i c hc
    rcases classes_withMethod howner hc with ⟨-, hc⟩ | ⟨rfl, rfl⟩
    · exact h.classId hc
    · rfl
  case className =>
    intro i j c d hc hd hcd
    obtain ⟨c', hc', hcc⟩ : ∃ c', g.classes[i]? = some c' ∧ c'.name = c.name := by
      rcases classes_withMethod howner hc with ⟨-, hc⟩ | ⟨rfl, rfl⟩
      exacts [⟨c, hc, rfl⟩, ⟨owner, howner, rfl⟩]
    obtain ⟨d', hd', hdd⟩ : ∃ d', g.classes[j]? = some d' ∧ d'.name = d.name := by
      rcases classes_withMethod howner hd with ⟨-, hd⟩ | ⟨rfl, rfl⟩
      exacts [⟨d, hd, rfl⟩, ⟨owner, howner, rfl⟩]
    exact h.className hc' hd' (by rw [hcc, hdd, hcd])
  case methodId =>
    intro i m hm
    rcases getElem?_push_eq_some_iff.1 hm with hm | ⟨rfl, rfl⟩
    · exact h.methodId hm
    · rfl
  case owner =>
    intro i m hm
    obtain ⟨c, hc, hname⟩ : ∃ c, g.classes[m.classId]? = some c ∧ c.name = m.name.className := by
      rcases getElem?_push_eq_some_iff.1 hm with hm | ⟨rfl, rfl⟩
      exacts [h.owner hm, ⟨owner, howner, rfl⟩]
    exact ⟨_, getElem?_modify_eq_some_iff.2 ⟨c, hc, rfl⟩, by split <;> exact hname⟩
  case signatures =>
    intro i c hc
    rcases classes_withMethod howner hc with ⟨-, hc⟩ | ⟨rfl, rfl⟩
    · exact h.signatures hc
    · refine List.nodup_cons.2 ⟨fun hmem => ?_, h.signatures howner⟩
      obtain ⟨x, hx, hsig⟩ := List.mem_map.1 hmem
      exact hfree x hx hsig
  case members =>
    intro i c hc x
    rcases classes_withMethod howner hc with ⟨hi, hc⟩ | ⟨rfl, rfl⟩
    · rw [h.members hc]
      constructor
      · rintro ⟨m, hm, hclass, hsig⟩
        exact ⟨m, getElem?_push_eq_some_iff.2 (.inl hm), hclass, hsig⟩
      · rintro ⟨m, hm, hclass, hsig⟩
        rcases getElem?_push_eq_some_iff.1 hm with hm | ⟨-, rfl⟩
        · exact ⟨m, hm, hclass, hsig⟩
        · exact absurd hclass.symm hi
    · rw [List.mem_cons, h.members howner]
      constructor
      · rintro (rfl | ⟨m, hm, hclass, hsig⟩)
        · exact ⟨_, getElem?_push_eq_some_iff.2 (.inr ⟨rfl, rfl⟩), rfl, rfl⟩
        · exact ⟨m, getElem?_push_eq_some_iff.2 (.inl hm), hclass, hsig⟩
      · rintro ⟨m, hm, hclass, hsig⟩
        rcases getElem?_push_eq_some_iff.1 hm with hm | ⟨hid, rfl⟩
        · exact .inr ⟨m, hm, hclass, hsig⟩
        · left
          cases x
          cases hid
          cases hsig
          rfl

private theorem callsAgree_withMethod (h : g.CallsAgree) (owner : ClassNode) (signature : String) :
    (g.withMethod owner signature).CallsAgree := by
  have hpush : ∀ {i : MethodId} {n : MethodNode}, (g.withMethod owner signature).methods[i]? = some n →
      g.methods[i]? = some n ∨ i = g.methods.size ∧ n.forward = [] ∧ n.reverse = [] := by
    intro i n hn
    rcases getElem?_push_eq_some_iff.1 hn with hn | ⟨hi, rfl⟩
    exacts [.inl hn, .inr ⟨hi, rfl, rfl⟩]
  constructor
  case caller =>
    intro i n hn e he
    rcases hpush hn with hn | ⟨-, hnf, -⟩
    · exact h.caller hn e he
    · simp [hnf] at he
  case callee_lt =>
    intro e he
    rw [CallGraph.withMethod, Array.size_push]
    exact Nat.lt_succ_of_lt (h.callee_lt (hasEdge_withMethod.1 he))
  case reverse =>
    intro i n hn e
    rw [hasEdge_withMethod]
    rcases hpush hn with hn | ⟨rfl, -, hnr⟩
    · exact h.reverse hn e
    · rw [hnr]
      refine ⟨fun he => by simp at he, fun ⟨hcallee, he⟩ => ?_⟩
      exact absurd hcallee (Nat.ne_of_lt (h.callee_lt he))
  case forward_nodup =>
    intro i n hn
    rcases hpush hn with hn | ⟨-, hnf, -⟩
    · exact h.forward_nodup hn
    · simp [hnf]
  case reverse_nodup =>
    intro i n hn
    rcases hpush hn with hn | ⟨-, -, hnr⟩
    · exact h.reverse_nodup hn
    · simp [hnr]
  case numEdges_forward => simpa [CallGraph.withMethod] using h.numEdges_forward
  case numEdges_reverse => simpa [CallGraph.withMethod] using h.numEdges_reverse

theorem withMethod (h : g.WellFormed) {owner : ClassNode} {signature : String}
    (howner : g.classes[owner.id]? = some owner) (hnew : owner.find? signature = none) :
    (g.withMethod owner signature).WellFormed := by
  refine ⟨h.namesAgree_withMethod howner hnew, callsAgree_withMethod h.toCallsAgree owner signature,
    h.toEntriesAgree.congr rfl rfl ?_⟩
  rw [CallGraph.withMethod, Array.size_push]
  exact Nat.le_succ _

theorem addMethod (h : g.WellFormed) (classId : ClassId) (signature : String) :
    (g.addMethod classId signature).1.WellFormed := by
  rcases g.addMethod_cases classId signature with
    ⟨-, heq⟩ | ⟨c, hc, ⟨id, -, heq⟩ | ⟨-, -, heq⟩ | ⟨hnew, -, heq⟩⟩
  · rw [heq]
    exact h
  · rw [heq]
    exact h
  · rw [heq]
    exact h
  · obtain rfl := h.classId hc
    rw [heq rfl]
    exact h.withMethod hc hnew

theorem withEntrypoint (h : g.WellFormed) {id : MethodId} (hid : id < g.methods.size)
    (hnew : id ∉ g.entryIds) : (g.withEntrypoint id).WellFormed := by
  refine ⟨h.toNamesAgree.congr rfl rfl rfl, h.toCallsAgree.congr rfl rfl, ?_⟩
  constructor
  case entryIds =>
    rw [CallGraph.withEntrypoint, Array.toList_push]
    exact (h.entryIds.cons id).trans (List.perm_append_singleton id _).symm
  case entrypoints_nodup =>
    rw [h.entryIds.mem_iff] at hnew
    rw [CallGraph.withEntrypoint, Array.toList_push]
    exact List.Nodup.append h.entrypoints_nodup (List.nodup_singleton id) (by simpa using hnew)
  case entrypoints_lt =>
    intro i hi
    rcases Array.mem_push.1 hi with hi | rfl
    exacts [h.entrypoints_lt i hi, hid]

theorem addEntrypoint (h : g.WellFormed) (id : MethodId) : (g.addEntrypoint id).1.WellFormed := by
  rcases g.addEntrypoint_cases id with
    ⟨-, heq⟩ | ⟨-, -, heq⟩ | ⟨-, -, -, heq⟩ | ⟨-, hid, hnew, heq⟩ <;> rw [heq]
  exacts [h, h, h, h.withEntrypoint hid hnew]

private theorem namesAgree_withEdge (h : g.NamesAgree) (e : CallEdge) : (g.withEdge e).NamesAgree := by
  constructor
  case classIndex => exact h.classIndex
  case classId => exact h.classId
  case className => exact h.className
  case methodId =>
    intro i m hm
    obtain ⟨n, hn, rfl⟩ := methods_withEdge.1 hm
    show n.id = i
    exact h.methodId hn
  case owner =>
    intro i m hm
    obtain ⟨n, hn, rfl⟩ := methods_withEdge.1 hm
    show ∃ c, g.classes[n.classId]? = some c ∧ c.name = n.name.className
    exact h.owner hn
  case signatures => exact h.signatures
  case members =>
    intro i c hc x
    rw [h.members hc x]
    constructor
    · rintro ⟨m, hm, hclass, hsig⟩
      exact ⟨_, methods_withEdge.2 ⟨m, hm, rfl⟩, hclass, hsig⟩
    · rintro ⟨m, hm, hclass, hsig⟩
      obtain ⟨n, hn, rfl⟩ := methods_withEdge.1 hm
      exact ⟨n, hn, hclass, hsig⟩

private theorem callsAgree_withEdge (h : g.CallsAgree) {e : CallEdge}
    (hcaller : e.caller < g.methods.size) (hcallee : e.callee < g.methods.size)
    (hnew : ¬g.HasEdge e) : (g.withEdge e).CallsAgree := by
  have hsize : (g.withEdge e).methods.size = g.methods.size := by simp [CallGraph.withEdge]
  constructor
  case caller =>
    intro i m hm x hx
    obtain ⟨n, hn, rfl⟩ := methods_withEdge.1 hm
    dsimp only at hx
    split at hx
    · rcases List.mem_cons.1 hx with rfl | hx
      exacts [Eq.symm ‹_›, h.caller hn x hx]
    · exact h.caller hn x hx
  case callee_lt =>
    intro x hx
    rw [hsize]
    rcases (hasEdge_withEdge hcaller).1 hx with rfl | hx
    exacts [hcallee, h.callee_lt hx]
  case reverse =>
    intro i m hm x
    obtain ⟨n, hn, rfl⟩ := methods_withEdge.1 hm
    rw [hasEdge_withEdge hcaller]
    dsimp only
    split
    · subst i
      rw [List.mem_cons, h.reverse hn]
      constructor
      · rintro (rfl | ⟨hx, he⟩)
        exacts [⟨rfl, .inl rfl⟩, ⟨hx, .inr he⟩]
      · rintro ⟨hx, rfl | he⟩
        exacts [.inl rfl, .inr ⟨hx, he⟩]
    · rename_i hi
      rw [h.reverse hn]
      constructor
      · rintro ⟨hx, he⟩
        exact ⟨hx, .inr he⟩
      · rintro ⟨hx, rfl | he⟩
        exacts [absurd hx.symm hi, ⟨hx, he⟩]
  case forward_nodup =>
    intro i m hm
    obtain ⟨n, hn, rfl⟩ := methods_withEdge.1 hm
    dsimp only
    split
    · subst i
      exact List.nodup_cons.2 ⟨fun he => hnew ⟨n, hn, he⟩, h.forward_nodup hn⟩
    · exact h.forward_nodup hn
  case reverse_nodup =>
    intro i m hm
    obtain ⟨n, hn, rfl⟩ := methods_withEdge.1 hm
    dsimp only
    split
    · exact List.nodup_cons.2 ⟨fun he => hnew ((h.reverse hn e).1 he).2, h.reverse_nodup hn⟩
    · exact h.reverse_nodup hn
  case numEdges_forward =>
    rw [CallGraph.withEdge, ← h.numEdges_forward]
    simp only [Array.toList_modify]
    rw [map_modify_of_eq, sum_modify_add_one _ hcaller]
    · exact fun m => rfl
    · exact fun m => rfl
  case numEdges_reverse =>
    rw [CallGraph.withEdge, ← h.numEdges_reverse]
    simp only [Array.toList_modify]
    rw [sum_modify_add_one, map_modify_of_eq]
    · exact fun m => rfl
    · rw [List.length_modify]
      exact hcallee
    · exact fun m => rfl

theorem withEdge (h : g.WellFormed) {e : CallEdge} (hcaller : e.caller < g.methods.size)
    (hcallee : e.callee < g.methods.size) (hnew : ¬g.HasEdge e) : (g.withEdge e).WellFormed := by
  refine ⟨namesAgree_withEdge h.toNamesAgree e, callsAgree_withEdge h.toCallsAgree hcaller hcallee hnew,
    h.toEntriesAgree.congr rfl rfl ?_⟩
  simp [CallGraph.withEdge]

theorem addEdge (h : g.WellFormed) (e : CallEdge) : (g.addEdge e).1.WellFormed := by
  rcases g.addEdge_cases e with
    ⟨-, heq⟩ | ⟨-, -, heq⟩ | ⟨-, -, heq⟩ | ⟨-, hnew, hcaller, hcallee, heq⟩ <;> rw [heq]
  exacts [h, h, h, h.withEdge hcaller hcallee hnew]

theorem freeze (h : g.WellFormed) : g.freeze.WellFormed :=
  ⟨h.toNamesAgree.congr rfl rfl rfl, h.toCallsAgree.congr rfl rfl,
    h.toEntriesAgree.congr rfl rfl (Nat.le_refl _)⟩

end CallGraph.WellFormed

end CallAtlas.Graph
