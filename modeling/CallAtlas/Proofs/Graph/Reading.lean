import CallAtlas.Proofs.Graph.Building

/-!
# What lines build

A line gives a record or is counted as refused; the graph of the lines is the one of the records read.

* `readable`: the records of the lines, each with the number of its line; `kept`: the lines that are
  neither header nor blank.
* `Builder.addLine_of_error`, `Builder.addLine_of_taken`, `Builder.addLine_of_refused`: what a line can come
  to; `Builder.addLinesFrom_of_addLine`: a run goes on after it.
* `Follows.addLine_of_ok`, `Follows.addLinesFrom`: a line, and a run of lines, keeps the builder in step
  with the records taken, and each line kept counts once, as a record or as refused. What else taking a
  record keeps (`Carried`), the run keeps.
* `load_follows`, `load_carries`: the same for a whole trace.
* `CallGraph.IsGraphOf`: the graph is the one that a list of records stands for; `load_isGraphOf`: as the
  graph of a trace is.
-/

namespace CallAtlas.Graph

open Trace

/-- The line is the header, or blank. -/
def isLeftOut (hasHeader : Bool) (lineNo : Nat) (line : String) : Bool :=
  (hasHeader && lineNo == 1) || Text.allBlank line

theorem isLeftOut_of_lt {lineNo : Nat} (h : 1 < lineNo) (line : String) :
    isLeftOut true lineNo line = Text.allBlank line := by
  rw [isLeftOut, beq_false_of_ne (Nat.ne_of_gt h), Bool.and_false, Bool.false_or]

/-- The records of the lines that can be read; the first line has the number `lineNo`. -/
def readable (hasHeader : Bool) (lineNo : Nat) : List String → List Record
  | [] => []
  | line :: rest =>
    if isLeftOut hasHeader lineNo line then readable hasHeader (lineNo + 1) rest
    else
      match parseLine line (some lineNo) with
      | .ok r => r :: readable hasHeader (lineNo + 1) rest
      | .error _ => readable hasHeader (lineNo + 1) rest

/-- How many lines are neither header nor blank. -/
def kept (hasHeader : Bool) (lineNo : Nat) : List String → Nat
  | [] => 0
  | line :: rest =>
    (if isLeftOut hasHeader lineNo line then 0 else 1) + kept hasHeader (lineNo + 1) rest

theorem readable_append (hasHeader : Bool) (lineNo : Nat) (xs ys : List String) :
    readable hasHeader lineNo (xs ++ ys) =
      readable hasHeader lineNo xs ++ readable hasHeader (lineNo + xs.length) ys := by
  induction xs generalizing lineNo with
  | nil => rfl
  | cons x xs ih =>
    have hlen : lineNo + (x :: xs).length = lineNo + 1 + xs.length := by
      rw [List.length_cons]
      omega
    rw [hlen, List.cons_append, readable, readable, ih]
    split
    · rfl
    · split <;> rfl

theorem kept_le_length (hasHeader : Bool) (lineNo : Nat) (lines : List String) :
    kept hasHeader lineNo lines ≤ lines.length := by
  induction lines generalizing lineNo with
  | nil => exact Nat.le_refl 0
  | cons line rest ih =>
    have := ih (lineNo + 1)
    rw [kept, List.length_cons]
    split <;> omega

/-- The records are read from lines. -/
theorem exists_parseLine_of_mem_readable {hasHeader : Bool} {lineNo : Nat} {lines : List String}
    {r : Record} (h : r ∈ readable hasHeader lineNo lines) :
    ∃ line n, parseLine line n = .ok r := by
  induction lines generalizing lineNo with
  | nil => simp [readable] at h
  | cons line rest ih =>
    rw [readable] at h
    split at h
    · exact ih h
    · split at h
      next r' hread =>
        rcases List.mem_cons.1 h with rfl | h
        · exact ⟨line, _, hread⟩
        · exact ih h
      next => exact ih h

/-- The header gives no record. -/
theorem readable_header (header : String) (lines : List String) :
    readable true 1 (header :: lines) = readable true 2 lines := by
  rw [readable, isLeftOut]
  simp

theorem kept_header (header : String) (lines : List String) :
    kept true 1 (header :: lines) = kept true 2 lines := by
  rw [kept, isLeftOut]
  simp

namespace Builder.Follows

variable {b : Builder} {top : Int} {taken : List Record}

/-- A line refused changes nothing but the counts. -/
theorem refuse (h : Follows b top taken) (m : Malformed) : Follows (b.refuse m) top taken :=
  { h with
    unexpectedEntries := by
      rw [← h.unexpectedEntries]
      exact (b.unexpectedEntries_note (.malformed m)).trans (List.append_nil _) }

end Builder.Follows

namespace Builder

/-! ## A line more -/

/-- The builder with one line more counted. -/
def countLine (b : Builder) : Builder :=
  { b with stats := { b.stats with lines := b.stats.lines + 1 } }

section

variable {b b' : Builder} {isTold : Malformed → Bool} {hasHeader : Bool} {lineNo : Nat} {line : String}
  {r : Record} {m : Malformed}

theorem addLine_of_error (hread : parseLine line (some lineNo) = .error m) :
    b.addLine isTold lineNo line = (b.refuse m, .ok ()) := by
  rw [addLine, hread]

theorem addLine_of_taken (hread : parseLine line (some lineNo) = .ok r)
    (hadd : b.addRecord r = (b', .ok ())) : b.addLine isTold lineNo line = (b', .ok ()) := by
  rw [addLine, hread]
  dsimp only
  rw [hadd]

theorem addLine_of_refused (hread : parseLine line (some lineNo) = .ok r)
    (hadd : b.addRecord r = (b', .error (.malformed m))) (htold : isTold m = true) :
    b.addLine isTold lineNo line = (b'.refuse m, .ok ()) := by
  rw [addLine, hread]
  dsimp only
  rw [hadd]
  exact if_pos htold

theorem addLinesFrom_of_leftOut (hout : isLeftOut hasHeader lineNo line = true) (rest : List String) :
    b.addLinesFrom isTold hasHeader lineNo (line :: rest) =
      b.countLine.addLinesFrom isTold hasHeader (lineNo + 1) rest :=
  if_pos hout

theorem addLinesFrom_of_not_leftOut (hout : isLeftOut hasHeader lineNo line = false)
    (rest : List String) : b.addLinesFrom isTold hasHeader lineNo (line :: rest) =
      match b.countLine.addLine isTold lineNo line with
      | (b', .ok ()) => b'.addLinesFrom isTold hasHeader (lineNo + 1) rest
      | (b', .error e) => (b', .error e) :=
  if_neg (Bool.eq_false_iff.1 hout)

theorem addLinesFrom_of_addLine (hout : isLeftOut hasHeader lineNo line = false)
    (hline : b.countLine.addLine isTold lineNo line = (b', .ok ())) (rest : List String) :
    b.addLinesFrom isTold hasHeader lineNo (line :: rest) =
      b'.addLinesFrom isTold hasHeader (lineNo + 1) rest := by
  rw [addLinesFrom_of_not_leftOut hout, hline]

end

/-! ## Runs of lines -/

/-- What taking a record keeps, and what nothing else that a line does changes: to count the line, to keep a
notice and to fix the level at which the records begin. -/
structure Carried (top : Int) (P : Builder → List Record → Prop) : Prop where
  skip : ∀ {b : Builder} {taken : List Record}, P b taken → P b.countLine taken
  refuse : ∀ {b : Builder} {taken : List Record} (origin : Option Int) (m : Malformed), P b taken →
    P (Builder.refuse { b with origin } m) taken
  take : ∀ {b b' : Builder} {taken : List Record} {r : Record}, Follows b top taken →
    b.origin.getD (min r.depth 0) = top → Fits top taken r →
    b.addRecord r = (b', .ok ()) → P b taken → P b' (taken ++ [r])

namespace Follows

variable {b : Builder} {top : Int} {taken : List Record} {P : Builder → List Record → Prop}

/-- A line that gives a record counts once, and its record is added. -/
theorem addLine_of_ok (hP : Carried top P) (h : Follows b top taken) (hb : P b taken) {lineNo : Nat}
    {line : String} {r : Record} (hr : parseLine line (some lineNo) = .ok r)
    (htop : b.origin.getD (min r.depth 0) = top) :
    ∃ b', b.addLine (fun _ => true) lineNo line = (b', .ok ()) ∧ Follows b' top (extend top taken r) ∧
      P b' (extend top taken r) ∧ b'.origin = some top ∧
      b'.stats.records + b'.stats.malformed = b.stats.records + b.stats.malformed + 1 := by
  by_cases hfits : Fits top taken r
  · obtain ⟨b', heq, hb', horigin, hmalformed⟩ := h.addRecord_of_fits htop hfits
    have hcarried := hP.take h htop hfits heq hb
    rw [extend_of_fits hfits]
    refine ⟨b', addLine_of_taken hr heq, hb', hcarried, horigin, ?_⟩
    rw [hb'.records, h.records, hmalformed, List.length_append, List.length_singleton]
    omega
  · obtain ⟨m, heq⟩ := h.addRecord_of_not_fits htop hfits
    have h' : Follows { b with origin := some top } top taken := { h with }
    rw [extend_of_not_fits hfits]
    exact ⟨_, addLine_of_refused hr heq rfl, h'.refuse m, hP.refuse (some top) m hb, rfl, rfl⟩

/-- A run of lines keeps the builder in step with the records read. -/
theorem addLinesFrom (hP : Carried top P) (h : Follows b top taken) (hb : P b taken) (hasHeader : Bool)
    (lineNo : Nat) (lines : List String)
    (htop : b.origin.getD (startLevel (readable hasHeader lineNo lines)) = top) :
    ∃ b', b.addLinesFrom (fun _ => true) hasHeader lineNo lines = (b', .ok ()) ∧
      Follows b' top ((readable hasHeader lineNo lines).foldl (extend top) taken) ∧
      P b' ((readable hasHeader lineNo lines).foldl (extend top) taken) ∧
      b'.stats.records + b'.stats.malformed =
        b.stats.records + b.stats.malformed + kept hasHeader lineNo lines := by
  induction lines generalizing b taken lineNo with
  | nil => exact ⟨b, rfl, h, hb, rfl⟩
  | cons line rest ih =>
    have h₁ : Follows b.countLine top taken := { h with }
    have hb₁ : P b.countLine taken := hP.skip hb
    rw [kept]
    rw [readable] at htop ⊢
    cases hout : isLeftOut hasHeader lineNo line with
    | true =>
      simp only [hout, if_true] at htop ⊢
      rw [Nat.zero_add, addLinesFrom_of_leftOut hout]
      exact ih h₁ hb₁ (lineNo + 1) htop
    | false =>
      simp only [hout, Bool.false_eq_true, if_false] at htop ⊢
      cases hread : parseLine line (some lineNo) with
      | error m =>
        rw [hread] at htop
        obtain ⟨b', heq, hb', hcarried, hcount⟩ :=
          ih (h₁.refuse m) (hP.refuse b.origin m hb₁) (lineNo + 1) htop
        refine ⟨b', ?_, hb', hcarried, ?_⟩
        · rw [addLinesFrom_of_addLine hout (addLine_of_error hread)]
          exact heq
        · rw [hcount]
          show b.stats.records + (b.stats.malformed + 1) + _ = _
          omega
      | ok r =>
        rw [hread, startLevel_cons] at htop
        obtain ⟨b₁, heq₁, h₂, hb₂, horigin, hcount₁⟩ := h₁.addLine_of_ok hP hb₁ hread htop
        obtain ⟨b', heq, hb', hcarried, hcount⟩ :=
          ih h₂ hb₂ (lineNo + 1) (by rw [horigin, Option.getD_some])
        refine ⟨b', (addLinesFrom_of_addLine hout heq₁ rest).trans heq, hb', hcarried, ?_⟩
        rw [hcount, hcount₁]
        show b.stats.records + b.stats.malformed + 1 + _ = _
        omega

end Follows

end Builder

/-- What taking a record keeps holds of the builder whose graph is the one of a trace. -/
theorem load_carries (lines : List String) {P : Builder → List Record → Prop}
    (hP : Builder.Carried (startLevel (readable true 1 lines)) P) (hempty : P {} []) :
    let rs := readable true 1 lines
    ∃ b : Builder, b.Follows (startLevel rs) (accepted (startLevel rs) rs) ∧
      P b (accepted (startLevel rs) rs) ∧ load lines = ⟨b.graph.freeze, b.stats⟩ ∧
      b.stats.records + b.stats.malformed = kept true 1 lines := by
  intro rs
  obtain ⟨b, heq, hb, hcarried, hcount⟩ :=
    (Builder.Follows.empty (startLevel rs)).addLinesFrom hP hempty true 1 lines rfl
  refine ⟨b, hb, hcarried, ?_, by simpa using hcount⟩
  rw [load, heq]
  rfl

/-- **The graph of a trace is the one of the records read.** It is the frozen graph of a builder in step
with these, and each line but the header and blank ones is counted once. -/
theorem load_follows (lines : List String) :
    let rs := readable true 1 lines
    ∃ b : Builder, b.Follows (startLevel rs) (accepted (startLevel rs) rs) ∧
      load lines = ⟨b.graph.freeze, b.stats⟩ ∧
      b.stats.records + b.stats.malformed = kept true 1 lines := by
  intro rs
  obtain ⟨b, hb, -, hload, hcount⟩ :=
    load_carries lines (P := fun _ _ => True) ⟨id, fun _ _ h => h, fun _ _ _ _ h => h⟩ trivial
  exact ⟨b, hb, hload, hcount⟩

/-- The graph has the methods, the classes, the entry points and the calls of the records. -/
structure CallGraph.IsGraphOf (g : CallGraph) (top : Int) (taken : List Record) : Prop where
  wellFormed : g.WellFormed
  methods : g.methodList = (taken.map (·.method)).eraseDups
  classes : g.classList = (taken.map (·.method.className)).eraseDups
  entrypoints : g.entrypoints.toList.map g.nameOf? =
    ((taken.filter (·.depth = top)).map (·.method)).eraseDups.map some
  calls : ∀ c, g.Calls c ↔ Made top taken c

/-- A method of the graph is that of a record. -/
theorem CallGraph.IsGraphOf.exists_record {g : CallGraph} {top : Int} {taken : List Record}
    (h : g.IsGraphOf top taken) {i : MethodId} {name : MethodName} (hname : g.nameOf? i = some name) :
    ∃ r ∈ taken, r.method = name := by
  have hmem := CallGraph.mem_methodList_of_nameOf? hname
  rw [h.methods, List.mem_eraseDups] at hmem
  exact List.mem_map.1 hmem

/-- A builder's graph stays the one of its records when it is frozen. -/
theorem Builder.Follows.isGraphOf_freeze {b : Builder} {top : Int} {taken : List Record}
    (h : b.Follows top taken) : b.graph.freeze.IsGraphOf top taken where
  wellFormed := h.filling.toWellFormed.freeze
  methods := h.methods
  classes := h.classes
  entrypoints := h.entrypoints
  calls := h.calls

theorem load_isGraphOf (lines : List String) :
    let rs := readable true 1 lines
    (load lines).graph.IsGraphOf (startLevel rs) (accepted (startLevel rs) rs) := by
  intro rs
  obtain ⟨b, hb, hload, -⟩ := load_follows lines
  rw [hload]
  exact hb.isGraphOf_freeze

end CallAtlas.Graph
