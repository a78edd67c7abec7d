import CallAtlas.Proofs.Graph.Cleaning
import CallAtlas.Proofs.Graph.Totals
import CallAtlas.Proofs.Trace.Names
import Mathlib.Data.List.Forall2

/-!
# What becomes of the lines of a trace

Each line is the header, or blank, or its record is taken, or it is refused. The counts of a run say how
many lines each of this became of, and its notices say of which.

* `Fate`, `fateOf`, `fates`: what becomes of a line, and of lines, said of the records taken before it;
  `refusedAt`: the numbers of the lines refused.
* `Builder.addRecord_of_out`: the refusal of a record bears the number of its line; `Builder.SameLines`: two
  builders have counted the same lines and refusals, as they have before and after a record is taken.
* `Follows.addLinesFrom_cons`: a line keeps the builder in step with its fate; `Follows.numbered_addLinesFrom`:
  so does a run, which keeps one refusal for each line refused, with the number of that line.
* `load_accounts_for_lines`: what the counts and the notices of a whole trace say.
-/

namespace CallAtlas.Graph

open Trace

/-! ## Fates -/

/-- What becomes of a line. -/
inductive Fate where
  | header
  | blank
  /-- Its record is taken. -/
  | taken (r : Record)
  /-- It cannot be read, or its record has no place. -/
  | refused
  deriving DecidableEq, Repr

/-- The record taken, if one is. -/
def Fate.record? : Fate → Option Record
  | taken r => some r
  | header | blank | refused => none

/-- What becomes of a line after the records taken. -/
def fateOf (top : Int) (taken : List Record) (lineNo : Nat) (line : String) : Fate :=
  if lineNo = 1 then .header
  else if Text.allBlank line then .blank
  else
    match parseLine line (some lineNo) with
    | .ok r => if Fits top taken r then .taken r else .refused
    | .error _ => .refused

/-- What becomes of the lines after the records taken; the first line has the number `lineNo`. -/
def fates (top : Int) (taken : List Record) (lineNo : Nat) : List String → List Fate
  | [] => []
  | line :: rest =>
    let fate := fateOf top taken lineNo line
    fate :: fates top (taken ++ fate.record?.toList) (lineNo + 1) rest

/-- The numbers of the lines refused; the first line has the number `lineNo`. -/
def refusedAt (lineNo : Nat) (fs : List Fate) : List Nat :=
  ((fs.zipIdx lineNo).filter fun p => p.1 = .refused).map (·.2)

theorem refusedAt_cons (lineNo : Nat) (f : Fate) (fs : List Fate) :
    refusedAt lineNo (f :: fs) = (if f = .refused then [lineNo] else []) ++ refusedAt (lineNo + 1) fs := by
  unfold refusedAt
  rw [List.zipIdx_cons, List.filter_cons]
  by_cases h : f = .refused <;> simp [h]

theorem fates_cons (top : Int) (taken : List Record) (lineNo : Nat) (line : String) (rest : List String) :
    fates top taken lineNo (line :: rest) = fateOf top taken lineNo line ::
      fates top (taken ++ (fateOf top taken lineNo line).record?.toList) (lineNo + 1) rest :=
  rfl

section

variable {top : Int} {taken : List Record} {lineNo : Nat} {line : String} {r : Record} {m : Malformed}

theorem record?_fateOf_of_leftOut (h : isLeftOut true lineNo line = true) (top : Int)
    (taken : List Record) : (fateOf top taken lineNo line).record? = none ∧
      fateOf top taken lineNo line ≠ .refused := by
  unfold fateOf
  by_cases h1 : lineNo = 1
  · simp [h1, Fate.record?]
  · have hblank : Text.allBlank line = true := by simpa [isLeftOut, h1] using h
    simp [h1, hblank, Fate.record?]

theorem fateOf_of_error (h : isLeftOut true lineNo line = false)
    (hread : parseLine line (some lineNo) = .error m) : fateOf top taken lineNo line = .refused := by
  have h' : lineNo ≠ 1 ∧ Text.allBlank line = false := by simpa [isLeftOut] using h
  simp [fateOf, h'.1, h'.2, hread]

theorem fateOf_of_ok (h : isLeftOut true lineNo line = false)
    (hread : parseLine line (some lineNo) = .ok r) :
    fateOf top taken lineNo line = if Fits top taken r then .taken r else .refused := by
  have h' : lineNo ≠ 1 ∧ Text.allBlank line = false := by simpa [isLeftOut] using h
  simp [fateOf, h'.1, h'.2, hread]

end

/-- The records taken are those that fit, of the records that can be read. -/
theorem records_fates (top : Int) (taken : List Record) (lineNo : Nat) (lines : List String) :
    taken ++ (fates top taken lineNo lines).filterMap Fate.record? =
      (readable true lineNo lines).foldl (extend top) taken := by
  induction lines generalizing taken lineNo with
  | nil => exact List.append_nil taken
  | cons line rest ih =>
    have hcons : ∀ f : Fate, taken ++ (f :: fates top (taken ++ f.record?.toList) (lineNo + 1) rest).filterMap
        Fate.record? = (readable true (lineNo + 1) rest).foldl (extend top) (taken ++ f.record?.toList) := by
      intro f
      rw [← ih]
      cases hf : f.record? <;> simp [hf]
    rw [fates_cons, hcons, readable]
    cases hout : isLeftOut true lineNo line with
    | true => rw [(record?_fateOf_of_leftOut hout top taken).1, Option.toList_none, List.append_nil, if_pos rfl]
    | false =>
      rw [if_neg Bool.false_ne_true]
      cases hread : parseLine line (some lineNo) with
      | error m => rw [fateOf_of_error hout hread, Fate.record?, Option.toList_none, List.append_nil]
      | ok r =>
        rw [fateOf_of_ok hout hread, List.foldl_cons]
        by_cases hr : Fits top taken r
        · rw [if_pos hr, extend_of_fits hr]
          rfl
        · rw [if_neg hr, extend_of_not_fits hr, Fate.record?, Option.toList_none, List.append_nil]

/-! ## Refusals and their numbers -/

theorem lineNo_of_parseLine_error {line : String} {lineNo : Option Int} {m : Malformed}
    (h : parseLine line lineNo = .error m) : m.lineNo = lineNo := by
  unfold parseLine at h
  dsimp only at h
  split at h <;> cases h
  rfl

namespace Builder

variable {b b' : Builder} {top : Int} {taken : List Record} {r : Record}

/-- A record with no place is refused with the number of its line. -/
theorem addRecord_of_out (htop : b.origin.getD (min r.depth 0) = top)
    (hout : r.depth < top ∨ b.depth < r.depth - top) : ∃ cause, b.addRecord r =
      ({ b with origin := some top }, .error (.malformed ⟨cause, r.lineNo, r.method.qualified⟩)) := by
  have hmin : min r.depth 0 = if r.depth < 0 then r.depth else 0 := by omega
  rw [hmin] at htop
  rw [addRecord, htop]
  by_cases h0 : r.depth - top < 0
  · exact ⟨_, if_pos h0⟩
  · exact ⟨_, (if_neg h0).trans (if_pos (hout.resolve_left (by omega)))⟩

/-- The second builder has counted the same lines, and keeps the same refusals. -/
structure SameLines (b b' : Builder) : Prop where
  lines : b'.stats.lines = b.stats.lines
  refusals : b'.stats.refusals = b.stats.refusals

theorem refusals_note (b : Builder) (n : Notice) :
    (b.note n).stats.refusals = b.stats.refusals ++ n.malformed?.toList := by
  rw [note, LoadStats.refusals, LoadStats.refusals, Array.toList_push, List.filterMap_append]
  cases h : n.malformed? <;> simp [h]

theorem sameLines_checkEntry (b : Builder) (r : Record) : b.SameLines (b.checkEntry r) := by
  unfold checkEntry
  split
  · exact ⟨rfl, rfl⟩
  · exact ⟨rfl, (b.refusals_note _).trans (List.append_nil _)⟩

theorem sameLines_place (b : Builder) (r : Record) (level : Nat) : b.SameLines (b.place r level).1 := by
  rcases b.place_cases r level with ⟨g, e, -, heq⟩ | ⟨g, id, -, ⟨-, heq⟩ | ⟨caller, -, heq⟩⟩ <;> rw [heq]
  · exact ⟨rfl, rfl⟩
  · have hcheck := sameLines_checkEntry (b.placed level g id) r
    obtain ⟨graph, entrypoints, out, henter⟩ := ((b.placed level g id).checkEntry r).enter_frame id
    rw [henter]
    exact ⟨hcheck.lines, hcheck.refusals⟩
  · obtain ⟨graph, edges, duplicateEdges, out, hconnect⟩ :=
      (b.placed level g id).connect_frame ⟨r.callType, caller, id⟩
    rw [hconnect]
    exact ⟨rfl, rfl⟩

theorem sameLines_addRecord (b : Builder) (r : Record) : b.SameLines (b.addRecord r).1 := by
  rcases b.addRecord_cases r with ⟨-, m, heq⟩ | ⟨-, -, heq⟩ <;> rw [heq]
  · exact ⟨rfl, rfl⟩
  · have h := sameLines_place { b with origin := some (b.origin.getD (min r.depth 0)) } r
      (r.depth - b.origin.getD (min r.depth 0)).toNat
    exact ⟨h.lines, h.refusals⟩

/-- The numbers that the refusals bear. -/
def refusalNumbers (b : Builder) : List (Option Int) :=
  b.stats.refusals.map Malformed.lineNo

theorem SameLines.refusalNumbers (h : b.SameLines b') : b'.refusalNumbers = b.refusalNumbers :=
  congrArg (List.map Malformed.lineNo) h.refusals

theorem refusalNumbers_refuse (b : Builder) (m : Malformed) :
    (b.refuse m).refusalNumbers = b.refusalNumbers ++ [m.lineNo] := by
  exact (congrArg (List.map Malformed.lineNo) (b.refusals_note (.malformed m))).trans List.map_append

/-- There are as many refusals as are counted. -/
theorem length_refusals_addRecord (h : b.stats.refusals.length = b.stats.malformed) (r : Record) :
    (b.addRecord r).1.stats.refusals.length = (b.addRecord r).1.stats.malformed := by
  rw [(b.sameLines_addRecord r).refusals, h]
  rcases b.addRecord_cases r with ⟨-, m, heq⟩ | ⟨-, -, heq⟩ <;> rw [heq]
  rw [(place_frame _ r _).2]

namespace Follows

/-- **A line keeps the builder in step with its fate.** One more line is counted, and if it is refused, one more
refusal is kept, with the number of the line. -/
theorem addLinesFrom_cons (h : Follows b top taken) (lineNo : Nat) (line : String) (rest : List String)
    (htop : b.origin.getD (startLevel (readable true lineNo (line :: rest))) = top) :
    let fate := fateOf top taken lineNo line
    ∃ b', b.addLinesFrom (fun _ => true) true lineNo (line :: rest) =
        b'.addLinesFrom (fun _ => true) true (lineNo + 1) rest ∧
      Follows b' top (taken ++ fate.record?.toList) ∧
      b'.origin.getD (startLevel (readable true (lineNo + 1) rest)) = top ∧
      b'.stats.lines = b.stats.lines + 1 ∧
      b'.refusalNumbers = b.refusalNumbers ++ if fate = .refused then [some (lineNo : Int)] else [] := by
  intro fate
  have h₁ : Follows b.countLine top taken := { h with }
  rw [readable] at htop
  cases hout : isLeftOut true lineNo line with
  | true =>
    rw [hout, if_pos rfl] at htop
    obtain ⟨hrecord, hfate⟩ := record?_fateOf_of_leftOut hout top taken
    refine ⟨b.countLine, addLinesFrom_of_leftOut hout rest, ?_, htop, rfl, ?_⟩
    · rw [hrecord, Option.toList_none, List.append_nil]
      exact h₁
    · rw [if_neg hfate, List.append_nil]
      rfl
  | false =>
    rw [hout, if_neg Bool.false_ne_true] at htop
    cases hread : parseLine line (some lineNo) with
    | error m =>
      rw [hread] at htop
      have hfate : fate = .refused := fateOf_of_error hout hread
      refine ⟨_, addLinesFrom_of_addLine hout (addLine_of_error hread) rest, ?_, htop, rfl, ?_⟩
      · rw [hfate, Fate.record?, Option.toList_none, List.append_nil]
        exact h₁.refuse m
      · rw [if_pos hfate, refusalNumbers_refuse, lineNo_of_parseLine_error hread]
        rfl
    | ok r =>
      rw [hread, startLevel_cons] at htop
      have hnumber : r.lineNo = some (lineNo : Int) := lineNo_of_parseLine hread
      by_cases hr : Fits top taken r
      · have hfate : fate = .taken r := (fateOf_of_ok hout hread).trans (if_pos hr)
        obtain ⟨b', hadd, hb', horigin, -⟩ := h₁.addRecord_of_fits htop hr
        have hsame := b.countLine.sameLines_addRecord r
        rw [hadd] at hsame
        refine ⟨b', addLinesFrom_of_addLine hout (addLine_of_taken hread hadd) rest, ?_, ?_, hsame.lines, ?_⟩
        · rw [hfate]
          exact hb'
        · rw [horigin, Option.getD_some]
        · rw [hfate, if_neg (by simp), List.append_nil]
          exact hsame.refusalNumbers
      · have hfate : fate = .refused := (fateOf_of_ok hout hread).trans (if_neg hr)
        have hout' : r.depth < top ∨ b.countLine.depth < r.depth - top := by
          rw [h₁.fits_iff] at hr
          omega
        obtain ⟨cause, hadd⟩ := addRecord_of_out (b := b.countLine) htop hout'
        have h₂ : Follows { b.countLine with origin := some top } top taken := { h₁ with }
        refine ⟨_, addLinesFrom_of_addLine hout (addLine_of_refused hread hadd rfl) rest, ?_, rfl, rfl, ?_⟩
        · rw [hfate, Fate.record?, Option.toList_none, List.append_nil]
          exact h₂.refuse _
        · rw [hfate, if_pos rfl, refusalNumbers_refuse, hnumber]
          rfl

/-- A run counts each line, and keeps a refusal for each line refused. -/
theorem numbered_addLinesFrom (h : Follows b top taken) (lineNo : Nat) (lines : List String)
    (htop : b.origin.getD (startLevel (readable true lineNo lines)) = top) :
    let run := (b.addLinesFrom (fun _ => true) true lineNo lines).1
    run.stats.lines = b.stats.lines + lines.length ∧
      run.refusalNumbers = b.refusalNumbers ++
        (refusedAt lineNo (fates top taken lineNo lines)).map fun n : Nat => some (n : Int) := by
  induction lines generalizing b taken lineNo with
  | nil => exact ⟨rfl, (List.append_nil _).symm⟩
  | cons line rest ih =>
    obtain ⟨b', heq, hb', htop', hlines, hnumbers⟩ := h.addLinesFrom_cons lineNo line rest htop
    obtain ⟨hlines', hnumbers'⟩ := ih hb' (lineNo + 1) htop'
    intro run
    have hrun : run = (b'.addLinesFrom (fun _ => true) true (lineNo + 1) rest).1 := congrArg Prod.fst heq
    rw [hrun, hlines', hnumbers', hlines, hnumbers, fates_cons, refusedAt_cons, List.map_append,
      List.append_assoc, List.length_cons]
    refine ⟨by omega, ?_⟩
    split <;> rfl

end Follows

end Builder

/-! ## Counts of what a graph stores -/

theorem length_eraseDups_le {α : Type} [DecidableEq α] (l : List α) : l.eraseDups.length ≤ l.length := by
  induction l using List.reverseRecOn with
  | nil => exact Nat.le_refl 0
  | append_singleton l a ih =>
    rw [eraseDups_append_singleton, List.length_append, List.length_singleton]
    by_cases ha : a ∈ l.eraseDups
    · rw [appendNew_of_mem ha]
      omega
    · rw [appendNew_of_notMem ha, List.length_append, List.length_singleton]
      omega

namespace CallGraph

/-- The calls as they stand with the methods that they are followed from. -/
def storedEdges (g : CallGraph) (d : Direction) : List CallEdge :=
  g.methods.toList.flatMap d.edges

namespace WellFormed

variable {g : CallGraph}

theorem mem_storedEdges_iff (h : g.WellFormed) (d : Direction) {e : CallEdge} :
    e ∈ g.storedEdges d ↔ g.HasEdge e := by
  have hstep : (∃ i, g.Step d i e) ↔ g.HasEdge e := by
    simp only [h.step_iff]
    exact ⟨fun ⟨i, _, he⟩ => he, fun he => ⟨_, rfl, he⟩⟩
  rw [← hstep, storedEdges, List.mem_flatMap]
  constructor
  · rintro ⟨m, hm, he⟩
    obtain ⟨i, hi⟩ := Array.mem_iff_getElem?.1 (Array.mem_toList_iff.1 hm)
    exact ⟨i, m, hi, he⟩
  · rintro ⟨i, m, hi, he⟩
    exact ⟨m, Array.mem_toList_iff.2 (Array.mem_of_getElem? hi), he⟩

/-- No call is stored twice, as it stands with one method only. -/
theorem nodup_storedEdges (h : g.WellFormed) (d : Direction) : (g.storedEdges d).Nodup := by
  rw [storedEdges, List.nodup_flatMap]
  constructor
  · intro m hm
    obtain ⟨i, hi⟩ := Array.mem_iff_getElem?.1 (Array.mem_toList_iff.1 hm)
    exact h.edges_nodup hi
  · rw [List.pairwise_iff_getElem]
    intro i j hi hj hij e hei hej
    rw [Array.length_toList] at hi hj
    rw [Array.getElem_toList] at hei hej
    have hsource : ∀ (k : MethodId) (hk : k < g.methods.size), e ∈ d.edges g.methods[k] → d.source e = k :=
      fun k hk he => (h.step_iff.1 ⟨_, Array.getElem?_eq_getElem hk, he⟩).1
    exact Nat.ne_of_lt hij ((hsource i hi hei).symm.trans (hsource j hj hej))

theorem length_storedEdges (h : g.WellFormed) (d : Direction) :
    (g.storedEdges d).length = g.numEdges := by
  rw [storedEdges, List.length_flatMap]
  cases d with
  | callees => exact h.numEdges_forward
  | callers => exact h.numEdges_reverse

end WellFormed

end CallGraph

/-! ## A whole trace -/

/-- The records taken stand at the top or below it. -/
theorem length_eq_of_nests {top : Int} {taken : List Record} (h : Nests top taken) :
    taken.length = (taken.filter (·.depth = top)).length + (taken.filter (top < ·.depth)).length := by
  rw [List.length_eq_countP_add_countP (p := fun r => decide (r.depth = top)),
    List.countP_eq_length_filter, List.countP_eq_length_filter]
  congr 2
  refine List.filter_congr fun r hr => ?_
  have := h.top_le r hr
  simp only [decide_eq_decide, decide_eq_true_eq]
  omega

/-- An entry point is the method of a record at the top. -/
theorem CallGraph.IsGraphOf.size_entrypoints_le {g : CallGraph} {top : Int} {taken : List Record}
    (h : g.IsGraphOf top taken) : g.entrypoints.size ≤ (taken.filter (·.depth = top)).length := by
  have hnames := congrArg List.length h.entrypoints
  rw [List.length_map, List.length_map, Array.length_toList] at hnames
  rw [hnames, ← List.length_map (f := Record.method)]
  exact length_eraseDups_le _

/-- Each line is the header, or blank, or kept. -/
theorem length_eq_kept (lines : List String) :
    lines.length = (if lines = [] then 0 else 1) + lines.tail.countP (Text.allBlank ·) + kept true 1 lines := by
  cases lines with
  | nil => rfl
  | cons header rest =>
    rw [kept_header, kept_eq_countP (Nat.lt_succ_self 1), List.length_cons, List.tail_cons,
      if_neg (List.cons_ne_nil header rest), rest.length_eq_countP_add_countP (Text.allBlank ·)]
    simp only [Bool.not_eq_true, Bool.decide_eq_false]
    omega

/-- A run keeps as many refusals as it counts. -/
theorem length_refusals_load (lines : List String) :
    (load lines).stats.refusals.length = (load lines).stats.malformed := by
  refine Builder.addLinesFrom_induction (P := fun b => b.stats.refusals.length = b.stats.malformed)
    (fun b h => h) (fun b m h => ?_) (fun b r h => Builder.length_refusals_addRecord h r) _ _ _ _ rfl
  have hrefuse := congrArg List.length (b.refusals_note (.malformed m))
  rw [List.length_append, h] at hrefuse
  exact hrefuse

/-- The refusals of a trace bear the numbers of the lines refused. -/
theorem forall₂_refusals_load (lines : List String) :
    List.Forall₂ (fun (n : Nat) (m : Malformed) => m.lineNo = some (n : Int))
      (refusedAt 1 (fates (startLevel (readable true 1 lines)) [] 1 lines)) (load lines).stats.refusals := by
  have hnumbers := ((Builder.Follows.empty _).numbered_addLinesFrom 1 lines rfl).2
  have heq : List.Forall₂ Eq ((refusedAt 1 (fates (startLevel (readable true 1 lines)) [] 1 lines)).map
      fun n : Nat => some (n : Int)) ((load lines).stats.refusals.map Malformed.lineNo) := by
    rw [List.forall₂_eq_eq_eq]
    exact hnumbers.symm
  rw [List.forall₂_map_left_iff, List.forall₂_map_right_iff] at heq
  exact heq.imp fun n m h => h.symm

/-- **The counts and the notices of a trace account for each of its lines.** Each line is the header, or blank,
or its record is taken, or it is refused, and each counts once. The errors are those of the lines refused, in
order, and begin with their numbers; the records taken are entry points or calls, and the calls are new to
the graph or not; each record at the top with an unexpected call type is warned of. What the header says has no
part in this. -/
theorem load_accounts_for_lines (lines : List String) :
    let s := (load lines).stats
    let g := (load lines).graph
    let top := startLevel (readable true 1 lines)
    let fates := fates top [] 1 lines
    let taken := fates.filterMap Fate.record?
    let entries := taken.filter (·.depth = top)
    (s.lines = lines.length ∧
      s.lines = (if lines = [] then 0 else 1) + lines.tail.countP (Text.allBlank ·) + s.records + s.malformed) ∧
    (s.malformed = (refusedAt 1 fates).length ∧ s.errors.length = s.malformed ∧
      List.Forall₂ (fun (n : Nat) error => ∃ cause : Cause, error = "line " ++ toString n ++ ": " ++ cause.message)
        (refusedAt 1 fates) s.errors) ∧
    (s.records = taken.length ∧ s.records = entries.length + s.edges + s.duplicateEdges) ∧
    (s.entrypoints = g.entrypoints.size ∧ s.entrypoints ≤ entries.length) ∧
    (s.edges = g.numEdges ∧ ∀ d, (g.storedEdges d).length = s.edges ∧ (g.storedEdges d).Nodup ∧
      ∀ e, e ∈ g.storedEdges d ↔ g.HasEdge e) ∧
    s.warnings = (entries.filter (·.callType ≠ entryCallType)).map (fun r =>
      (⟨r.lineNo, r.method, r.callType⟩ : UnexpectedEntry).message) ∧
    ∀ header header', load (header :: lines) = load (header' :: lines) := by
  intro s g top fates taken entries
  obtain ⟨b, hb, hcalls, hload, hcount⟩ := load_carries lines (Builder.carried_calls _) rfl
  have htaken : taken = accepted top (readable true 1 lines) := records_fates top [] 1 lines
  have hs : s = b.stats := congrArg Loaded.stats hload
  have hg : g.IsGraphOf top taken := htaken ▸ load_isGraphOf lines
  have hnests : Nests top taken := htaken ▸ Nests.accepted top _
  rw [← htaken] at hb hcalls
  rw [← hs] at hcalls hcount
  have hrefused := forall₂_refusals_load lines
  have hlength : s.refusals.length = s.malformed := length_refusals_load lines
  have hlines : s.lines = lines.length :=
    ((Builder.Follows.empty top).numbered_addLinesFrom 1 lines rfl).1.trans (Nat.zero_add _)
  obtain ⟨hedges, hentrypoints⟩ := load_counted lines
  refine ⟨⟨hlines, ?_⟩, ⟨?_, ?_, ?_⟩, ⟨?_, ?_⟩, ⟨hentrypoints, ?_⟩, ⟨hedges, fun d => ⟨?_, ?_, fun e => ?_⟩⟩,
    ?_, fun _ _ => rfl⟩
  · rw [hlines, length_eq_kept lines, ← hcount]
    exact (Nat.add_assoc _ _ _).symm
  · rw [← hlength, hrefused.length_eq]
  · rw [LoadStats.errors, List.length_map, hlength]
  · rw [LoadStats.errors, List.forall₂_map_right_iff]
    refine hrefused.imp fun n m hm => ⟨m.cause, ?_⟩
    rw [Malformed.message, hm]
    rfl
  · rw [hs, hb.records]
  · have hcalls : s.edges + s.duplicateEdges = _ := hcalls
    rw [Nat.add_assoc, hcalls, hs, hb.records]
    exact length_eq_of_nests hnests
  · exact Nat.le_trans (Nat.le_of_eq hentrypoints) hg.size_entrypoints_le
  · exact (hg.wellFormed.length_storedEdges d).trans hedges.symm
  · exact hg.wellFormed.nodup_storedEdges d
  · exact hg.wellFormed.mem_storedEdges_iff d
  · rw [LoadStats.warnings, hs, hb.unexpectedEntries, Builder.unexpected, List.map_map, List.filter_filter]
    congr 1
    refine List.filter_congr fun r _ => ?_
    rw [Bool.decide_and, Bool.and_comm]

/-- A line without a point, and a record that skips a level. -/
example : refusedAt 1 (fates 0 [] 1 ["header", "    entry app.Main.run():", "", "run()",
    "            directly calls app.Main.stop():", "        directly calls app.Main.stop():"]) = [4, 5] := by
  decide +kernel

end CallAtlas.Graph
