import CallAtlas.Proofs.Graph.Reading
import CallAtlas.Proofs.Trace.Blocks

/-!
# What the lines of a trace come to

The graph and the counts of a trace, said of the records in its lines without their numbers.

* `LoadStats.calls`: the calls counted, be they new to the graph or not; `Builder.calls_addRecord`: a record
  taken counts as one if it stands below the top.
* `recordsOf`: the records in lines; `readable_eq_recordsOf`: these are the records read.
* `Loaded.ComesFrom`: a graph and counts are those of a list of records taken; `load_comesFrom`: as those of
  a trace are.
-/

namespace CallAtlas.Graph

open Trace

/-- The calls counted: those new to the graph, and those that it had. -/
def LoadStats.calls (s : LoadStats) : Nat :=
  s.edges + s.duplicateEdges

namespace Builder

variable {b b' : Builder} {top : Int} {taken : List Record} {r : Record}

/-! ## Steps -/

theorem calls_checkEntry (b : Builder) (r : Record) :
    (b.checkEntry r).stats.calls = b.stats.calls := by
  obtain ⟨notices, heq, -⟩ := b.checkEntry_eq r
  rw [heq]
  rfl

theorem calls_enter (b : Builder) (id : MethodId) : (b.enter id).1.stats.calls = b.stats.calls := by
  obtain ⟨graph, entrypoints, out, heq⟩ := b.enter_frame id
  rw [heq]
  rfl

theorem calls_connect {e : CallEdge} (h : b.connect e = (b', .ok ())) :
    b'.stats.calls = b.stats.calls + 1 := by
  obtain ⟨graph, frames, origin, stats⟩ := b
  unfold connect at h
  dsimp only at h
  split at h
  · cases h
  next isNew _ =>
    cases h
    cases isNew with
    | true => exact Nat.add_right_comm stats.edges 1 stats.duplicateEdges
    | false => rfl

/-- A record taken counts as a call if it stands below the top. -/
theorem calls_addRecord (htop : b.origin.getD (min r.depth 0) = top)
    (hadd : b.addRecord r = (b', .ok ())) :
    b'.stats.calls = b.stats.calls + if top < r.depth then 1 else 0 := by
  rcases b.addRecord_cases r with ⟨-, m, heq⟩ | ⟨h0, hle, heq⟩ <;> rw [hadd] at heq
  · cases heq
  · rw [htop] at h0 hle heq
    rcases place_cases _ r (r.depth - top).toNat with
      ⟨g, e, -, heq'⟩ | ⟨g, id, -, ⟨hnil, heq'⟩ | ⟨caller, hlast, heq'⟩⟩ <;> rw [← heq] at heq'
    · cases heq'
    · have hlevel : ¬top < r.depth := by
        rw [List.take_eq_nil_iff] at hnil
        rcases hnil with hnil | hnil
        · omega
        · have : b.depth = 0 := congrArg List.length hnil
          omega
      have hcalls := congrArg (·.1.stats.calls) heq'
      simp only [calls_enter, calls_checkEntry] at hcalls
      rw [hcalls, if_neg hlevel]
      rfl
    · have hlevel : top < r.depth := by
        by_contra hlevel
        have : r.depth - top = 0 := by omega
        simp [this] at hlast
      rw [calls_connect heq'.symm, if_pos hlevel]
      rfl

/-- The calls counted are the records taken that stand below the top. -/
theorem carried_calls (top : Int) :
    Carried top fun b taken => b.stats.calls = (taken.filter (top < ·.depth)).length where
  skip h := h
  refuse _ _ h := h
  take {b b' taken r} _ htop _ hadd h := by
    rw [calls_addRecord htop hadd, h, List.filter_append, List.length_append]
    by_cases hr : top < r.depth <;> simp [hr]

end Builder

/-! ## Records without numbers -/

/-- The records in the lines, without the numbers of these. -/
def recordsOf (lines : List String) : List Record :=
  lines.filterMap fun line => (parseLine line none).toOption

theorem recordsOf_append (xs ys : List String) : recordsOf (xs ++ ys) = recordsOf xs ++ recordsOf ys :=
  List.filterMap_append

/-- The number of a line has no part in how it is read. -/
theorem map_unnumbered_parseLine (line : String) (lineNo : Option Int) :
    (parseLine line lineNo).toOption.map Record.unnumbered = (parseLine line none).toOption := by
  unfold parseLine
  dsimp only
  cases Fields.ofLine (Text.dropTrailing isLineEnd line.toList) <;> rfl

/-- A blank line gives no record, as it has no point. -/
theorem toOption_parseLine_of_allBlank {line : String} (h : Text.allBlank line = true)
    (lineNo : Option Int) : (parseLine line lineNo).toOption = none := by
  have hpoint : '.' ∉ (Text.dropTrailing isLineEnd line.toList).dropWhile isMargin := by
    intro hmem
    obtain ⟨rest, hline, -⟩ := Text.exists_eq_dropTrailing_append isLineEnd line.toList
    have hmem : '.' ∈ line.toList := by
      rw [hline]
      exact List.mem_append_left _ ((List.dropWhile_sublist _).subset hmem)
    have hblank := List.all_eq_true.1 h '.' hmem
    exact absurd hblank (by decide)
  unfold parseLine
  simp only [Fields.ofLine, Text.cutFirst_eq_none_iff.2 hpoint]
  rfl

/-- The records read are those in the lines. -/
theorem readable_eq_recordsOf {lineNo : Nat} (hlineNo : 1 < lineNo) (lines : List String) :
    (readable true lineNo lines).map Record.unnumbered = recordsOf lines := by
  induction lines generalizing lineNo with
  | nil => rfl
  | cons line rest ih =>
    have ih := ih (Nat.lt_succ_of_lt hlineNo)
    have hnumber := map_unnumbered_parseLine line (some lineNo)
    rw [readable, recordsOf, List.filterMap_cons, isLeftOut_of_lt hlineNo]
    by_cases hblank : Text.allBlank line = true
    · rw [if_pos hblank, toOption_parseLine_of_allBlank hblank]
      exact ih
    · rw [if_neg hblank, ← hnumber]
      cases parseLine line (some lineNo) with
      | ok r => exact congrArg (r.unnumbered :: ·) ih
      | error m => exact ih

theorem kept_eq_countP {lineNo : Nat} (hlineNo : 1 < lineNo) (lines : List String) :
    kept true lineNo lines = lines.countP fun line => !Text.allBlank line := by
  induction lines generalizing lineNo with
  | nil => rfl
  | cons line rest ih =>
    rw [kept, List.countP_cons, ih (Nat.lt_succ_of_lt hlineNo), isLeftOut_of_lt hlineNo]
    cases Text.allBlank line <;> simp [Nat.add_comm]

theorem CallGraph.IsGraphOf.map_unnumbered {g : CallGraph} {top : Int} {taken : List Record}
    (h : g.IsGraphOf top taken) : g.IsGraphOf top (taken.map Record.unnumbered) where
  wellFormed := h.wellFormed
  methods := by rw [h.methods, List.map_map]; rfl
  classes := by rw [h.classes, List.map_map]; rfl
  entrypoints := by rw [h.entrypoints, List.filter_map, List.map_map]; rfl
  calls c := by rw [h.calls, made_map_unnumbered]

namespace Loaded

/-- The graph is that of the records taken, and the counts are those of the records; each of so many lines
counts once, as a record or as refused. -/
structure ComesFrom (loaded : Loaded) (top : Int) (taken : List Record) (lines : Nat) : Prop where
  graph : loaded.graph.IsGraphOf top taken
  records : loaded.stats.records = taken.length
  lines : loaded.stats.records + loaded.stats.malformed = lines
  warnings : loaded.stats.warnings.length =
    (taken.filter fun r => r.depth = top ∧ r.callType ≠ entryCallType).length
  calls : loaded.stats.calls = (taken.filter (top < ·.depth)).length

variable {loaded : Loaded} {top top' : Int} {lines : Nat}

/-- Without records, no level is the one at which they begin. -/
theorem ComesFrom.of_nil (h : loaded.ComesFrom top [] lines) : loaded.ComesFrom top' [] lines where
  graph := { h.graph with calls := fun c => (h.graph.calls c).trans (iff_of_false made_nil made_nil) }
  records := h.records
  lines := h.lines
  warnings := h.warnings
  calls := h.calls

end Loaded

/-- **What a trace comes to.** -/
theorem load_comesFrom (header : String) (lines : List String) {top : Int}
    (htop : recordsOf lines ≠ [] → startLevel (recordsOf lines) = top) :
    (load (header :: lines)).ComesFrom top (accepted top (recordsOf lines))
      (lines.countP fun line => !Text.allBlank line) := by
  have hrs := readable_eq_recordsOf (Nat.lt_succ_self 1) lines
  rw [← readable_header header] at hrs
  have hload : (load (header :: lines)).ComesFrom (startLevel (recordsOf lines))
      (accepted (startLevel (recordsOf lines)) (recordsOf lines))
      (lines.countP fun line => !Text.allBlank line) := by
    rw [← hrs, startLevel_map_unnumbered, accepted_map_unnumbered]
    obtain ⟨b, hb, hcalls, hload, hcount⟩ :=
      load_carries (header :: lines) (Builder.carried_calls _) rfl
    rw [hload]
    refine ⟨hb.isGraphOf_freeze.map_unnumbered, ?_, ?_, ?_, ?_⟩
    · rw [List.length_map]
      exact hb.records
    · rw [← kept_eq_countP (Nat.lt_succ_self 1), ← kept_header header]
      exact hcount
    · show b.stats.warnings.length = _
      rw [LoadStats.warnings, List.length_map, hb.unexpectedEntries, Builder.unexpected, List.length_map,
        List.filter_map, List.length_map]
      rfl
    · show b.stats.calls = _
      rw [hcalls, List.filter_map, List.length_map]
      rfl
  by_cases hnil : recordsOf lines = []
  · rw [hnil] at hload ⊢
    exact hload.of_nil
  · rwa [htop hnil] at hload

end CallAtlas.Graph
