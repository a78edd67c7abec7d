import CallAtlas.Proofs.Graph.Reading
import CallAtlas.Proofs.Trace.Forest

/-!
# From a forest of calls to its listing and back

* `Layout`: the two columns at which a listing can begin.
* `reads_readable`: the records read from the listing of a forest are those of the forest.
* `load_listing`: the graph of the listing has the methods, the entry points and the calls of the forest,
  and every line is taken.
-/

namespace CallAtlas.Graph

open Trace

/-- Where a listing begins: with its roots indented by one level, or at column zero. -/
inductive Layout where
  | indented
  | flush
  deriving DecidableEq, Repr

/-- The column of the roots. -/
def Layout.column : Layout → Nat
  | indented => levelWidth
  | flush => 0

/-- Each line after the header gives the record of its call. -/
theorem readable_line {lineNo : Nat} (hlineNo : 1 < lineNo) (call : Call) (columns : Nat)
    (rest : List String) : readable true lineNo (call.line columns :: rest) =
      ⟨depthOf columns, call.callType, call.method, some lineNo⟩ :: readable true (lineNo + 1) rest := by
  have hkept : ¬isLeftOut true lineNo (call.line columns) = true := by
    rw [isLeftOut, call.allBlank_line, Bool.or_false, Bool.true_and, beq_iff_eq]
    omega
  rw [readable, if_neg hkept, call.parseLine_line]

/-- The lines of a forest are read as its records. -/
theorem reads_readable (f : Forest) {lineNo : Nat} (hlineNo : 1 < lineNo) (columns : Nat) :
    f.Reads (depthOf columns) (readable true lineNo (f.lines columns)) := by
  induction f generalizing lineNo columns with
  | nil => exact .nil
  | cons call inner next ihInner ihNext =>
    rw [Forest.lines, readable_line hlineNo, readable_append]
    refine .cons rfl rfl rfl ?_ (ihNext (by omega) columns)
    rw [← depthOf_add_levelWidth]
    exact ihInner (by omega) _

/-- The records of a listing begin at the level of its roots. -/
theorem reads_startLevel (f : Forest) (l : Layout) :
    f.Reads (startLevel (readable true 2 (f.lines l.column))) (readable true 2 (f.lines l.column)) := by
  have h := reads_readable f (Nat.lt_succ_self 1) l.column
  cases f with
  | nil => exact .nil
  | cons call inner next =>
    have hstart : startLevel (readable true 2 ((Forest.cons call inner next).lines l.column)) =
        depthOf l.column := by
      rw [Forest.lines, readable_line (by omega), startLevel]
      cases l <;> rfl
    rwa [hstart]

/-- **The listing of a forest is read back as that forest.** Whatever the header and the layout, no line is
refused and each gives a record; the methods are those of the calls, depth first, and the entry points
those of the roots, each without repetitions; the calls of the graph are those that the forest makes; and
each root whose call type is not `entry` gives a warning. -/
theorem load_listing (l : Layout) (header : String) (f : Forest) :
    let loaded := load (header :: f.lines l.column)
    loaded.graph.WellFormed ∧
    loaded.stats.malformed = 0 ∧
    loaded.stats.records = f.nodes.length ∧
    loaded.graph.entrypointNames = (f.roots.map (·.method)).eraseDups ∧
    loaded.graph.methodList = (f.nodes.map (·.method)).eraseDups ∧
    (∀ c, loaded.graph.Calls c ↔ c ∈ f.calls) ∧
    loaded.stats.warnings.length = (f.roots.filter (·.callType ≠ "entry")).length := by
  obtain ⟨b, hb, hload, hcount⟩ := load_follows (header :: f.lines l.column)
  rw [readable_header] at hb
  rw [kept_header] at hcount
  have hreads := reads_startLevel f l
  generalize readable true 2 (f.lines l.column) = rs at hb hreads
  generalize startLevel rs = top at hb hreads
  have htaken : accepted top rs = rs :=
    hreads.foldl_extend (Int.le_refl top) (by simp [openLevels])
  rw [htaken] at hb
  have hrecords : b.stats.records = f.nodes.length := by
    rw [hb.records, ← List.length_map (·.method), hreads.map_method, List.length_map]
  rw [hload]
  refine ⟨hb.filling.toWellFormed.freeze, ?_, hrecords, ?_, ?_, fun c => ?_, ?_⟩
  · have := kept_le_length true 2 (f.lines l.column)
    rw [f.length_lines] at this
    show b.stats.malformed = 0
    omega
  · show b.graph.entrypointNames = _
    rw [CallGraph.entrypointNames_eq hb.entrypoints, hreads.map_method_filter_depth]
  · show b.graph.methodList = _
    rw [hb.methods, hreads.map_method]
  · show b.graph.Calls c ↔ _
    have hmade : Made top ([] ++ rs) c ↔ _ := hreads.made (Int.le_refl top)
    rw [hb.calls, ← List.nil_append rs, hmade]
    simp [made_nil]
  · show b.stats.warnings.length = _
    rw [LoadStats.warnings, List.length_map, hb.unexpectedEntries, Builder.unexpected, List.length_map]
    exact hreads.length_filter_callType (· ≠ entryCallType)

/-- An entry point that calls itself is one method with one call. -/
example :
    let run : MethodName := ⟨"app.Main", "run(int)"⟩
    let outer : Call := ⟨"entry", run, "", by decide, by decide, by decide⟩
    let inner : Call := ⟨"directly calls", run, "void", by decide, by decide, by decide⟩
    let loaded := load ("header" :: (Forest.cons outer (.cons inner .nil .nil) .nil).lines 4)
    loaded.graph.methodList = [run] ∧ loaded.graph.numEdges = 1 := by
  decide +kernel

end CallAtlas.Graph
