import CallAtlas.Proofs.Graph.Counting

/-!
# Traces one after the other

The graph of two traces, the second of which begins at the level where the first does, is put together
from the graphs of the two.

* `traceOrigin?`: the level at which the run over a trace has its records begin; `Continues`: the first
  record of further lines is at that level, so all of them have one level (`Continues.levels`).
* `Loaded.IsJoin`: a graph and counts are put together from those of two traces; `ComesFrom.isJoin`: as they
  are if the records taken are those of the one and then those of the other.
* `load_joined`: the join of two traces, of two traces in either order, and of a trace with itself.
-/

namespace CallAtlas.Graph

open Trace

/-! ## Where a trace begins -/

/-- The level at which the records of a trace begin, once the run over it has come to a record. -/
def traceOrigin? (lines : List String) : Option Int :=
  (Builder.addLinesFrom (fun _ => true) {} true 1 lines).1.origin

/-- The first record of the lines stands at the level where the records of the trace begin; if the trace
has no records, it is taken as the first record of a trace. -/
def Continues (trace lines : List String) : Prop :=
  ∀ r ∈ (recordsOf lines).head?, traceOrigin? trace = some r.depth ∨
    traceOrigin? trace = none ∧ (({} : Builder).addRecord r).2 = .ok ()

instance (trace lines : List String) : Decidable (Continues trace lines) :=
  inferInstanceAs (Decidable (∀ r ∈ (recordsOf lines).head?, _))

namespace Builder

theorem origin_addLine (b : Builder) (isTold : Malformed → Bool) (lineNo : Nat) (line : String) :
    (b.addLine isTold lineNo line).1.origin =
      ((parseLine line (some lineNo)).toOption.map fun r => b.origin.getD (min r.depth 0)).or b.origin := by
  unfold addLine
  cases parseLine line (some lineNo) with
  | error m => rfl
  | ok r =>
    have horigin := b.origin_addRecord r
    dsimp only
    split <;> rename_i heq <;> rw [heq] at horigin
    · exact horigin
    · split <;> exact horigin
    · exact horigin

/-- A run of lines leaves that level as its first record fixes it, if it has one. -/
theorem origin_addLinesFrom (b : Builder) (isTold : Malformed → Bool) (hasHeader : Bool) (lineNo : Nat)
    (lines : List String) : (b.addLinesFrom isTold hasHeader lineNo lines).1.origin =
      ((readable hasHeader lineNo lines).head?.map fun r => b.origin.getD (min r.depth 0)).or b.origin := by
  induction lines generalizing b lineNo with
  | nil => rfl
  | cons line rest ih =>
    rw [readable]
    cases hout : isLeftOut hasHeader lineNo line with
    | true =>
      rw [addLinesFrom_of_leftOut hout, if_pos rfl]
      exact ih ..
    | false =>
      rw [if_neg Bool.false_ne_true]
      cases hread : parseLine line (some lineNo) with
      | error m =>
        rw [addLinesFrom_of_addLine hout (addLine_of_error hread)]
        exact ih ..
      | ok r =>
        have horigin := origin_addLine b.countLine isTold lineNo line
        rw [hread] at horigin
        rw [addLinesFrom_of_not_leftOut hout]
        split <;> rename_i heq <;> rw [heq] at horigin
        · -- The line fixes the level, and what comes after leaves it.
          rw [ih, horigin]
          cases (readable hasHeader (lineNo + 1) rest).head? <;> rfl
        · exact horigin

end Builder

theorem traceOrigin?_cons (header : String) (lines : List String) :
    traceOrigin? (header :: lines) = (recordsOf lines).head?.map fun r => min r.depth 0 := by
  rw [traceOrigin?, Builder.origin_addLinesFrom, readable_header,
    ← readable_eq_recordsOf (Nat.lt_succ_self 1) lines, List.head?_map, Option.map_map]
  exact Option.or_none

section

variable {header : String} {xs ys : List String}

/-- A trace, and lines that it continues with, all have the level at which the whole begins. -/
theorem Continues.levels (h : Continues (header :: xs) ys) :
    let top := startLevel (recordsOf (xs ++ ys))
    Begins top (recordsOf ys) ∧ (recordsOf xs ≠ [] → startLevel (recordsOf xs) = top) ∧
      (recordsOf ys ≠ [] → startLevel (recordsOf ys) = top) := by
  rw [Continues, traceOrigin?_cons] at h
  simp only [Builder.addRecord_empty_iff] at h
  rw [recordsOf_append]
  cases hys : recordsOf ys with
  | nil =>
    rw [List.append_nil]
    exact ⟨fun r hr => absurd hr (Option.some_ne_none r).symm, fun _ => rfl, fun hnil => absurd rfl hnil⟩
  | cons s ss =>
    have hs := h s (by rw [hys]; rfl)
    have hlevel : startLevel (recordsOf xs ++ s :: ss) = s.depth ∧ s.depth ≤ 0 := by
      cases hxs : recordsOf xs with
      | nil =>
        rw [hxs] at hs
        rcases hs with hs | ⟨-, hs⟩
        · cases hs
        · exact ⟨Int.min_eq_left hs, hs⟩
      | cons r rs =>
        rw [hxs] at hs
        rcases hs with hs | ⟨hs, -⟩
        · have hr : min r.depth 0 = s.depth := Option.some.inj hs
          exact ⟨hr, hr ▸ Int.min_le_right r.depth 0⟩
        · cases hs
    obtain ⟨htop, h0⟩ := hlevel
    refine ⟨fun r hr => ?_, fun hxs => ?_, fun _ => (Int.min_eq_left h0).trans htop.symm⟩
    · rw [List.head?_cons, Option.some.injEq] at hr
      rw [← hr, htop]
    · obtain ⟨r, rs, hcons⟩ := List.exists_cons_of_ne_nil hxs
      rw [hcons]
      rfl

/-- Lines taken at the start of a trace can be repeated. -/
theorem Continues.repeat (h : Continues [header] xs) : Continues (header :: xs) xs := by
  intro r hr
  have hr0 : r.depth ≤ 0 := by
    rcases h r hr with hnone | ⟨-, hadd⟩
    · rw [traceOrigin?_cons] at hnone
      cases hnone
    · exact (Builder.addRecord_empty_iff r).1 hadd
  left
  rw [traceOrigin?_cons, Option.mem_def.1 hr, Option.map_some, Int.min_eq_left hr0]

end

/-! ## Joins -/

namespace Loaded

/-- The graph and the counts are put together from those of two others: what the second one has comes after
what the first one has, unless it has it too, and the counts add up. -/
structure IsJoin (loaded a b : Loaded) : Prop where
  methods : loaded.graph.methodList =
    a.graph.methodList ++ b.graph.methodList.filter (· ∉ a.graph.methodList)
  classes : loaded.graph.classList =
    a.graph.classList ++ b.graph.classList.filter (· ∉ a.graph.classList)
  entrypoints : loaded.graph.entrypointNames =
    a.graph.entrypointNames ++ b.graph.entrypointNames.filter (· ∉ a.graph.entrypointNames)
  calls : ∀ c, loaded.graph.Calls c ↔ a.graph.Calls c ∨ b.graph.Calls c
  records : loaded.stats.records = a.stats.records + b.stats.records
  malformed : loaded.stats.malformed = a.stats.malformed + b.stats.malformed
  warnings : loaded.stats.warnings.length = a.stats.warnings.length + b.stats.warnings.length
  counted : loaded.stats.calls = a.stats.calls + b.stats.calls

variable {loaded a b : Loaded}

/-- If the records taken are those of the one and then those of the other, the graph is their join. -/
theorem ComesFrom.isJoin {top : Int} {xs ys : List Record} {m n : Nat} (hys : Nests top ys)
    (h : loaded.ComesFrom top (xs ++ ys) (m + n)) (ha : a.ComesFrom top xs m) (hb : b.ComesFrom top ys n) :
    loaded.IsJoin a b where
  methods := by
    rw [h.graph.methods, ha.graph.methods, hb.graph.methods, List.map_append, eraseDups_append_eq_filter]
  classes := by
    rw [h.graph.classes, ha.graph.classes, hb.graph.classes, List.map_append, eraseDups_append_eq_filter]
  entrypoints := by
    rw [CallGraph.entrypointNames_eq h.graph.entrypoints, CallGraph.entrypointNames_eq ha.graph.entrypoints,
      CallGraph.entrypointNames_eq hb.graph.entrypoints, List.filter_append, List.map_append,
      eraseDups_append_eq_filter]
  calls c := by rw [h.graph.calls, ha.graph.calls, hb.graph.calls, made_append hys]
  records := by rw [h.records, ha.records, hb.records, List.length_append]
  malformed := by
    have hrecords := h.records
    have hlines := h.lines
    rw [List.length_append, ← ha.records, ← hb.records] at hrecords
    rw [← ha.lines, ← hb.lines] at hlines
    omega
  warnings := by rw [h.warnings, ha.warnings, hb.warnings, List.filter_append, List.length_append]
  counted := by rw [h.calls, ha.calls, hb.calls, List.filter_append, List.length_append]

/-- A join has the methods of both. -/
theorem IsJoin.mem_methodList_iff (h : loaded.IsJoin a b) {name : MethodName} :
    name ∈ loaded.graph.methodList ↔ name ∈ a.graph.methodList ∨ name ∈ b.graph.methodList := by
  rw [h.methods, List.mem_append, List.mem_filter]
  by_cases hname : name ∈ a.graph.methodList <;> simp [hname]

/-- A join of a graph with itself has what the graph has, under the same numbers. -/
theorem IsJoin.eq_of_self (h : loaded.IsJoin a a) (hloaded : loaded.graph.WellFormed)
    (ha : a.graph.WellFormed) :
    loaded.graph.classList = a.graph.classList ∧ loaded.graph.methodList = a.graph.methodList ∧
      loaded.graph.entrypointNames = a.graph.entrypointNames ∧
      ∀ e, loaded.graph.HasEdge e ↔ a.graph.HasEdge e := by
  have hclasses := h.classes
  have hmethods := h.methods
  have hentry := h.entrypoints
  rw [List.filter_eq_nil_iff.2 (by simp), List.append_nil] at hclasses hmethods hentry
  refine ⟨hclasses, hmethods, hentry, fun e => ?_⟩
  rw [hloaded.hasEdge_iff_calls, ha.hasEdge_iff_calls]
  simp only [hloaded.methodId?_eq_some_iff, ha.methodId?_eq_some_iff, CallGraph.nameOf?_congr hmethods,
    h.calls, or_self]

end Loaded

/-- **A trace with lines after it.** Lines that a trace continues with are read as a trace by themselves, and
what they come to is put together with what the trace comes to. If each of two runs of lines continues the
other one, their order decides neither the methods nor the calls; lines that are taken at the start of a
trace bring nothing new if they are repeated. -/
theorem load_joined (header : String) (xs ys : List String) (h : Continues (header :: xs) ys) :
    let once := load (header :: xs)
    let both := load (header :: (xs ++ ys))
    both.IsJoin once (load (header :: ys)) ∧
    (Continues (header :: ys) xs →
      let swapped := load (header :: (ys ++ xs))
      (∀ name, name ∈ both.graph.methodList ↔ name ∈ swapped.graph.methodList) ∧
        ∀ c, both.graph.Calls c ↔ swapped.graph.Calls c) ∧
    (Continues [header] xs →
      let twice := load (header :: (xs ++ xs))
      twice.graph.classList = once.graph.classList ∧ twice.graph.methodList = once.graph.methodList ∧
        twice.graph.entrypointNames = once.graph.entrypointNames ∧
        ∀ e, twice.graph.HasEdge e ↔ once.graph.HasEdge e) := by
  intro once both
  have hjoin : ∀ {xs ys}, Continues (header :: xs) ys →
      (load (header :: (xs ++ ys))).IsJoin (load (header :: xs)) (load (header :: ys)) := by
    intro xs ys h
    obtain ⟨hbegins, hxs, hys⟩ := h.levels
    have hboth := load_comesFrom header (xs ++ ys) fun _ => rfl
    rw [recordsOf_append, accepted_append (by rwa [← recordsOf_append]), List.countP_append] at hboth
    rw [recordsOf_append] at hxs hys
    exact hboth.isJoin (.accepted ..) (load_comesFrom header xs hxs) (load_comesFrom header ys hys)
  have hboth := hjoin h
  refine ⟨hboth, fun hswap => ?_, fun hfirst => ?_⟩
  · have hswapped := hjoin hswap
    refine ⟨fun name => ?_, fun c => ?_⟩
    · rw [hboth.mem_methodList_iff, hswapped.mem_methodList_iff, or_comm]
    · rw [hboth.calls, hswapped.calls, or_comm]
  · exact (hjoin hfirst.repeat).eq_of_self (load_isGraphOf _).wellFormed (load_isGraphOf _).wellFormed

/-- Two methods, each of them an entry point in one of two traces, where it calls the other one. Together the traces
have both calls. -/
theorem load_joined_cycle :
    let xs := ["    entry app.Main.run():", "        directly calls app.Main.stop():"]
    let ys := ["    entry app.Main.stop():", "        virtually calls app.Main.run():"]
    let both := load ("header" :: (xs ++ ys))
    let run : MethodName := ⟨"app.Main", "run()"⟩
    let stop : MethodName := ⟨"app.Main", "stop()"⟩
    Continues ("header" :: xs) ys ∧ Continues ("header" :: ys) xs ∧ Continues ["header"] xs ∧
    both.IsJoin (load ("header" :: xs)) (load ("header" :: ys)) ∧
    both.graph.Calls ⟨"directly calls", run, stop⟩ ∧ both.graph.Calls ⟨"virtually calls", stop, run⟩ ∧
    both.graph.numEdges = 2 ∧ both.graph.methodList = [run, stop] ∧
    (∀ c, both.graph.Calls c ↔ (load ("header" :: (ys ++ xs))).graph.Calls c) ∧
    (load ("header" :: (xs ++ xs))).graph.methodList = (load ("header" :: xs)).graph.methodList := by
  intro xs ys both run stop
  have hys : Continues ("header" :: xs) ys := by decide +kernel
  have hxs : Continues ("header" :: ys) xs := by decide +kernel
  have hfirst : Continues ["header"] xs := by decide +kernel
  obtain ⟨hjoin, hswap, htwice⟩ := load_joined "header" xs ys hys
  have hcall : (load ("header" :: xs)).graph.Calls ⟨"directly calls", run, stop⟩ :=
    ⟨⟨"directly calls", 0, 1⟩, by decide +kernel, rfl, by decide +kernel, by decide +kernel⟩
  have hcall' : (load ("header" :: ys)).graph.Calls ⟨"virtually calls", stop, run⟩ :=
    ⟨⟨"virtually calls", 0, 1⟩, by decide +kernel, rfl, by decide +kernel, by decide +kernel⟩
  exact ⟨hys, hxs, hfirst, hjoin, (hjoin.calls _).2 (.inl hcall), (hjoin.calls _).2 (.inr hcall'),
    by decide +kernel, by decide +kernel, (hswap hxs).2, (htwice hfirst).2.1⟩

end CallAtlas.Graph
