import CallAtlas.Proofs.Graph.Joining
import CallAtlas.Proofs.Trace.Margins

/-!
# Traces with other margins

What a trace comes to depends on the whole levels of its margins, counted from the level at which it begins.

* `LoadStats.withoutTexts`: the counts and notices without the texts of the lines refused, on which neither errors
  nor warnings depend (`errors_withoutTexts`, `warnings_withoutTexts`).
* `Builder.lowered`: a builder whose records begin so many levels lower. The parts of a step go on alike from it
  (`place_lowered`), and so does a record that is as many levels lower (`addRecord_lowered`).
* `Builder.IsLowered`: two builders are in step; `IsLowered.addLine`, `IsLowered.addLinesFrom`: they stay in step over
  a line, and over lines that are read alike.
* `load_margins`: a trace whose lines have other margins, and a trace at column zero one level further in.
-/

namespace CallAtlas.Graph

open Trace

/-! ## Counts without the texts of lines -/

/-- The notice, without the text of a line refused. -/
def Notice.withoutText : Notice → Notice
  | .malformed m => .malformed m.withoutText
  | .unexpectedEntry w => .unexpectedEntry w

namespace LoadStats

/-- The counts and notices, without the texts of the lines refused. -/
def withoutTexts (s : LoadStats) : LoadStats :=
  { s with notices := s.notices.map Notice.withoutText }

theorem refusals_withoutTexts (s : LoadStats) :
    s.withoutTexts.refusals = s.refusals.map Malformed.withoutText := by
  rw [refusals, refusals, withoutTexts, Array.toList_map, List.filterMap_map, List.map_filterMap]
  refine List.filterMap_congr fun n _ => ?_
  cases n <;> rfl

theorem unexpectedEntries_withoutTexts (s : LoadStats) :
    s.withoutTexts.unexpectedEntries = s.unexpectedEntries := by
  rw [unexpectedEntries, unexpectedEntries, withoutTexts, Array.toList_map, List.filterMap_map]
  refine List.filterMap_congr fun n _ => ?_
  cases n <;> rfl

theorem errors_withoutTexts (s : LoadStats) : s.withoutTexts.errors = s.errors := by
  rw [errors, refusals_withoutTexts, List.map_map]
  rfl

theorem warnings_withoutTexts (s : LoadStats) : s.withoutTexts.warnings = s.warnings := by
  rw [warnings, unexpectedEntries_withoutTexts, warnings]

theorem counts_withoutTexts (s : LoadStats) : s.withoutTexts.counts = s.counts := by
  rw [counts, warnings_withoutTexts]
  rfl

end LoadStats

/-! ## Steps from a lower level -/

/-- The records of a trace that begin at `top` can be moved by so many levels: by none, or by one if they begin
at column zero. -/
def IsShift (levels top : Int) : Prop :=
  levels = 0 ∨ levels = 1 ∧ top = -1

namespace Builder

/-- The builder, with its records so many levels lower, and without the texts of the lines refused. -/
def lowered (levels : Int) (b : Builder) : Builder :=
  { b with origin := b.origin.map (· + levels), stats := b.stats.withoutTexts }

variable {b b' : Builder} {levels : Int}

theorem note_lowered (b : Builder) (levels : Int) (n : Notice) :
    (b.lowered levels).note n.withoutText = (b.note n).lowered levels := by
  simp [note, lowered, LoadStats.withoutTexts]

theorem refuse_lowered (b : Builder) (levels : Int) (m : Malformed) :
    (b.lowered levels).refuse m.withoutText = (b.refuse m).lowered levels := by
  simp [refuse, note, lowered, LoadStats.withoutTexts, Notice.withoutText]

theorem checkEntry_lowered (b : Builder) (levels : Int) (r : Record) :
    (b.lowered levels).checkEntry (r.lower levels) = (b.checkEntry r).lowered levels := by
  unfold checkEntry
  by_cases h : r.callType = entryCallType
  · rw [if_pos h]
    exact if_pos h
  · rw [if_neg h, ← note_lowered]
    exact if_neg h

theorem enter_lowered (b : Builder) (levels : Int) (method : MethodId) :
    (b.lowered levels).enter method = Prod.map (lowered levels) id (b.enter method) := by
  obtain ⟨graph, frames, origin, stats⟩ := b
  unfold enter lowered
  dsimp only
  cases graph.addEntrypoint method with
  | mk g out => cases out <;> rfl

theorem connect_lowered (b : Builder) (levels : Int) (e : CallEdge) :
    (b.lowered levels).connect e = Prod.map (lowered levels) id (b.connect e) := by
  obtain ⟨graph, frames, origin, stats⟩ := b
  unfold connect lowered
  dsimp only
  cases graph.addEdge e with
  | mk g out => cases out <;> rfl

theorem place_lowered (b : Builder) (levels : Int) (r : Record) (level : Nat) :
    (b.lowered levels).place (r.lower levels) level =
      Prod.map (lowered levels) id (b.place r level) := by
  cases hadd : b.graph.addNamed r.method with
  | mk g out =>
    cases out with
    | error e =>
      obtain ⟨graph, frames, origin, stats⟩ := b
      dsimp only at hadd
      simp only [place, lowered, Record.lower, hadd, Prod.map_apply, id_eq]
    | ok id =>
      have hadd' : (b.lowered levels).graph.addNamed (r.lower levels).method = (g, .ok id) := hadd
      have hplaced : (b.lowered levels).placed level g id = (b.placed level g id).lowered levels := rfl
      have hframes : (b.lowered levels).frames = b.frames := rfl
      rw [place_eq hadd, place_eq hadd', hplaced, hframes, checkEntry_lowered]
      cases (b.frames.take level).getLast? with
      | none => exact enter_lowered ..
      | some caller => exact connect_lowered ..

/-- A record that is as many levels lower has the same outcome. That it stands above the top would be told with
its depth, so such a record may only be as low as it was. -/
theorem addRecord_lowered (r : Record)
    (hfirst : b.origin = none → min (r.depth + levels) 0 = min r.depth 0 + levels)
    (habove : levels = 0 ∨ b.origin.getD (min r.depth 0) ≤ r.depth) :
    (b.lowered levels).addRecord (r.lower levels) = Prod.map (lowered levels) id (b.addRecord r) := by
  obtain ⟨top, htop⟩ : ∃ top, top = b.origin.getD (min r.depth 0) := ⟨_, rfl⟩
  have hmin : ∀ d : Int, (if d < 0 then d else 0) = min d 0 := fun d => by omega
  have htop' : (b.lowered levels).origin.getD (min (r.lower levels).depth 0) = top + levels := by
    rw [htop]
    cases horigin : b.origin with
    | none => simpa [lowered, Record.lower, horigin] using hfirst horigin
    | some o => simp [lowered, horigin]
  have hlevel : (r.lower levels).depth - (top + levels) = r.depth - top := by
    show r.depth + levels - (top + levels) = _
    omega
  obtain ⟨b₁, hb₁⟩ : ∃ b₁ : Builder, b₁ = { b with origin := some top } := ⟨_, rfl⟩
  have hat : ({ b.lowered levels with origin := some (top + levels) } : Builder) = lowered levels b₁ := by
    rw [hb₁]
    rfl
  rw [addRecord, addRecord, hmin, hmin, htop', ← htop, hlevel, hat, ← hb₁]
  by_cases h0 : r.depth - top < 0
  · obtain rfl : levels = 0 := by omega
    rw [if_pos h0, if_pos h0, r.lower_zero]
    rfl
  · rw [if_neg h0, if_neg h0]
    by_cases hle : (b₁.depth : Int) < r.depth - top
    · rw [if_pos hle]
      exact if_pos hle
    · rw [if_neg hle, ← place_lowered]
      exact if_neg hle

/-! ## Runs in step -/

/-- The records of the second builder begin so many levels lower, and but for that and for the texts of the lines
refused, the two are the same. -/
def IsLowered (levels : Int) (b b' : Builder) : Prop :=
  b'.lowered 0 = b.lowered levels

namespace IsLowered

theorem countLine (h : IsLowered levels b b') : IsLowered levels b.countLine b'.countLine :=
  congrArg Builder.countLine h

theorem refuse (h : IsLowered levels b b') {m m' : Malformed} (hm : m'.withoutText = m.withoutText) :
    IsLowered levels (b.refuse m) (b'.refuse m') := by
  rw [IsLowered, ← refuse_lowered, ← refuse_lowered, h, hm]

/-- A record that is read so many levels lower keeps the builders in step, with the same outcome. -/
theorem addRecord (h : IsLowered levels b b') {r : Record} (hr : -1 ≤ r.depth)
    (hshift : IsShift levels (b.origin.getD (min r.depth 0))) :
    IsLowered levels (b.addRecord r).1 (b'.addRecord (r.lower levels)).1 ∧
      (b'.addRecord (r.lower levels)).2 = (b.addRecord r).2 := by
  have hb : (b.lowered levels).addRecord (r.lower levels) =
      Prod.map (lowered levels) id (b.addRecord r) := by
    refine addRecord_lowered r (fun hnone => ?_) ?_
    · rw [hnone] at hshift
      rcases hshift with rfl | ⟨rfl, htop⟩
      · simp
      · rw [Option.getD_none] at htop
        omega
    · rcases hshift with rfl | ⟨-, htop⟩
      · exact .inl rfl
      · exact .inr (htop ▸ hr)
  have hb' : (b'.lowered 0).addRecord ((r.lower levels).lower 0) =
      Prod.map (lowered 0) id (b'.addRecord (r.lower levels)) :=
    addRecord_lowered _ (fun _ => by simp) (.inl rfl)
  rw [Record.lower_zero, h, hb] at hb'
  exact ⟨(congrArg Prod.fst hb').symm, (congrArg Prod.snd hb').symm⟩

/-- A line that is read alike keeps the builders in step. -/
theorem addLine (h : IsLowered levels b b') {line line' : String} (hline : ReadsLower levels line line')
    (hblank : Text.allBlank line = false) (isTold : Malformed → Bool) (lineNo : Nat)
    (hshift : ∀ r, parseLine line (some lineNo) = .ok r → IsShift levels (b.origin.getD (min r.depth 0))) :
    IsLowered levels (b.addLine isTold lineNo line).1 (b'.addLine isTold lineNo line').1 ∧
      (b'.addLine isTold lineNo line').2 = (b.addLine isTold lineNo line).2 := by
  rcases hline.read hblank (some lineNo) with ⟨r, hread, hread'⟩ | ⟨m, m', hread, hread', hm⟩
  · obtain ⟨hnext, hout⟩ := h.addRecord (le_depth_of_parseLine hread) (hshift r hread)
    unfold Builder.addLine
    rw [hread, hread']
    dsimp only
    cases hadd : b.addRecord r with
    | mk b₁ out =>
      cases hadd' : b'.addRecord (r.lower levels) with
      | mk b₁' out' =>
        rw [hadd, hadd'] at hnext hout
        obtain rfl : out' = out := hout
        rcases out' with (m | e) | ⟨⟩
        · dsimp only
          split
          · exact ⟨hnext.refuse rfl, rfl⟩
          · exact ⟨hnext, rfl⟩
        · exact ⟨hnext, rfl⟩
        · exact ⟨hnext, rfl⟩
  · rw [addLine_of_error hread, addLine_of_error hread']
    exact ⟨h.refuse hm, rfl⟩

/-- Lines that are read alike keep the builders in step, if all their records can be moved by so many levels. -/
theorem addLinesFrom {lines lines' : List String} (hlines : List.Forall₂ (ReadsLower levels) lines lines')
    (h : IsLowered levels b b') (isTold : Malformed → Bool) {lineNo : Nat} (hlineNo : 1 < lineNo)
    (hshift : ∀ r ∈ (readable true lineNo lines).head?, IsShift levels (b.origin.getD (min r.depth 0))) :
    IsLowered levels (b.addLinesFrom isTold true lineNo lines).1
      (b'.addLinesFrom isTold true lineNo lines').1 := by
  induction hlines generalizing b b' lineNo with
  | nil => exact h
  | @cons line line' rest rest' hline hrest ih =>
    have hnext := Nat.lt_succ_of_lt hlineNo
    have hout := isLeftOut_of_lt hlineNo line
    have hout' := isLeftOut_of_lt hlineNo line'
    rw [hline.blank] at hout'
    rw [readable, hout] at hshift
    cases hblank : Text.allBlank line with
    | true =>
      rw [hblank] at hout hout' hshift
      rw [addLinesFrom_of_leftOut hout, addLinesFrom_of_leftOut hout']
      exact ih h.countLine hnext hshift
    | false =>
      rw [hblank] at hout hout' hshift
      rw [if_neg Bool.false_ne_true] at hshift
      have hfirst : ∀ r, parseLine line (some lineNo) = .ok r →
          IsShift levels (b.origin.getD (min r.depth 0)) := by
        intro r hread
        rw [hread] at hshift
        exact hshift r rfl
      obtain ⟨hstep, hsame⟩ := h.countLine.addLine hline hblank isTold lineNo hfirst
      have horigin := origin_addLine b.countLine isTold lineNo line
      rw [addLinesFrom_of_not_leftOut hout, addLinesFrom_of_not_leftOut hout']
      cases hadd : b.countLine.addLine isTold lineNo line with
      | mk b₁ out =>
        cases hadd' : b'.countLine.addLine isTold lineNo line' with
        | mk b₁' out' =>
          rw [hadd] at hstep hsame horigin
          rw [hadd'] at hstep hsame
          obtain rfl : out' = out := hsame
          cases out' with
          | error e => exact hstep
          | ok _ =>
            refine ih hstep hnext fun r hr => ?_
            -- The line fixes the level at which the records begin, or leaves that to the next record.
            dsimp only at horigin
            rw [horigin]
            cases hread : parseLine line (some lineNo) with
            | ok s => exact hfirst s hread
            | error m =>
              rw [hread] at hshift
              exact hshift r hr

end IsLowered

end Builder

/-! ## Traces -/

/-- The second trace comes to the same graph, and is counted and reported as the first one is. -/
structure Loaded.Agrees (loaded loaded' : Loaded) : Prop where
  graph : loaded'.graph = loaded.graph
  counts : loaded'.stats.counts = loaded.stats.counts
  errors : loaded'.stats.errors = loaded.stats.errors
  warnings : loaded'.stats.warnings = loaded.stats.warnings

/-- Lines that are read alike come to the same after a header. -/
theorem load_agrees (levels : Int) {lines lines' : List String} (header : String)
    (hlines : List.Forall₂ (ReadsLower levels) lines lines')
    (hshift : ∀ r ∈ (recordsOf lines).head?, IsShift levels (min r.depth 0)) :
    (load (header :: lines)).Agrees (load (header :: lines')) := by
  have hstart : Builder.IsLowered levels ({} : Builder).countLine ({} : Builder).countLine := rfl
  have hfirst : ∀ r ∈ (readable true 2 lines).head?,
      IsShift levels (({} : Builder).countLine.origin.getD (min r.depth 0)) := by
    intro r hr
    refine hshift r.unnumbered ?_
    rw [← readable_eq_recordsOf (Nat.lt_succ_self 1), List.head?_map, Option.mem_def.1 hr]
    rfl
  have hrun := hstart.addLinesFrom hlines (fun _ => true) (Nat.lt_succ_self 1) hfirst
  have hload : ∀ rest, load (header :: rest) =
      let b := (({} : Builder).countLine.addLinesFrom (fun _ => true) true 2 rest).1
      ⟨b.graph.freeze, b.stats⟩ := fun _ => rfl
  rw [hload, hload]
  generalize (({} : Builder).countLine.addLinesFrom (fun _ => true) true 2 lines).1 = b at hrun
  generalize (({} : Builder).countLine.addLinesFrom (fun _ => true) true 2 lines').1 = b' at hrun
  have hstats : b'.stats.withoutTexts = b.stats.withoutTexts := congrArg Builder.stats hrun
  exact {
    graph := congrArg (fun b => b.graph.freeze) hrun
    counts := by rw [← LoadStats.counts_withoutTexts, hstats, LoadStats.counts_withoutTexts]
    errors := by rw [← LoadStats.errors_withoutTexts, hstats, LoadStats.errors_withoutTexts]
    warnings := by rw [← LoadStats.warnings_withoutTexts, hstats, LoadStats.warnings_withoutTexts] }

/-- **Margins count by whole levels, from where the trace begins.** A trace comes to the same if any of its lines
are given other margins of as many whole levels; and if its first record stands at column zero, it comes to the
same one level further in. -/
theorem load_margins (header : String) (lines lines' : List String) :
    (List.Forall₂ (fun line line' => line' = line ∨ IsRealigned line line') lines lines' →
      (load (header :: lines)).Agrees (load (header :: lines'))) ∧
    ((∀ r ∈ (recordsOf lines).head?, r.depth = -1) → List.Forall₂ IsIndented lines lines' →
      (load (header :: lines)).Agrees (load (header :: lines'))) := by
  constructor
  · intro hlines
    refine load_agrees 0 header (hlines.imp fun line line' h => ?_) fun r _ => .inl rfl
    rcases h with rfl | h
    · exact .refl line'
    · exact h.readsLower
  · intro hfirst hlines
    refine load_agrees 1 header (hlines.imp fun line line' h => h.readsLower) fun r hr => .inr ⟨rfl, ?_⟩
    rw [hfirst r hr]
    rfl

/-- A trace whose tree is drawn, with a line that skips a level and a line that gives no record, beside the trace
without the drawing; and a trace at column zero, with a line that is drawing only, beside the same further in. -/
theorem load_margins_drawn :
    let plain := ["    entry app.Main.run():", "        directly calls app.Main.stop():", "  none", " ",
      "                directly calls app.Log.add(int):"]
    let drawn := ["│   entry app.Main.run():", "│   ├──── directly calls app.Main.stop():", "─none", " ",
      "                directly calls app.Log.add(int):"]
    let flush := ["entry app.Main.run():", "├── directly calls app.Main.stop():", "──", ""]
    let inner := ["    entry app.Main.run():", "│   ├── directly calls app.Main.stop():", "├─────", ""]
    List.Forall₂ (fun line line' => line' = line ∨ IsRealigned line line') plain drawn ∧
    (∀ r ∈ (recordsOf flush).head?, r.depth = -1) ∧ List.Forall₂ IsIndented flush inner ∧
    (load ("header" :: plain)).Agrees (load ("header" :: drawn)) ∧
    (load ("header" :: flush)).Agrees (load ("header" :: inner)) ∧
    (load ("header" :: plain)).stats.errors =
      ["line 4: no '.' after indentation", "line 6: depth 3 skips a level (open frames: 2)"] ∧
    (load ("header" :: flush)).graph.numEdges = 1 := by
  intro plain drawn flush inner
  have hplain : List.Forall₂ (fun line line' => line' = line ∨ IsRealigned line line') plain drawn := by
    refine .cons (.inr ⟨⟨[' ', ' ', ' ', ' '], ['│', ' ', ' ', ' '], 'e', "ntry app.Main.run():".toList, ?_⟩, by decide,
      by decide⟩) <| .cons (.inr ⟨⟨[' ', ' ', ' ', ' ', ' ', ' ', ' ', ' '],
        ['│', ' ', ' ', ' ', '├', '─', '─', '─', '─', ' '], 'd', "irectly calls app.Main.stop():".toList, ?_⟩, by decide,
      by decide⟩) <| .cons (.inr ⟨⟨[' ', ' '], ['─'], 'n', "one".toList, ?_⟩, by decide, by decide⟩) <|
      .cons (.inl rfl) <| .cons (.inl rfl) .nil
    all_goals exact ⟨by simp [IsMargin], by simp [IsMargin], by decide, by decide, by decide, by decide, by decide⟩
  have hfirst : ∀ r ∈ (recordsOf flush).head?, r.depth = -1 := by decide +kernel
  have hflush : List.Forall₂ IsIndented flush inner := by
    refine .cons (.inr ⟨by decide, [' ', ' ', ' ', ' '], ?_⟩) <|
      .cons (.inr ⟨by decide, ['│', ' ', ' ', ' '], ?_⟩) <|
      .cons (.inr ⟨by decide, ['├', '─', '─', '─'], ?_⟩) <| .cons (.inl ⟨by decide, rfl⟩) .nil
    all_goals exact ⟨by simp [IsMargin], rfl, by decide⟩
  exact ⟨hplain, hfirst, hflush, (load_margins "header" plain drawn).1 hplain,
    (load_margins "header" flush inner).2 hfirst hflush, by decide +kernel, by decide +kernel⟩

end CallAtlas.Graph
