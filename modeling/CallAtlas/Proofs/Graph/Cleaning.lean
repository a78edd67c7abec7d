import CallAtlas.Proofs.Graph.Counting

/-!
# Cleaned traces

A trace without its blank lines and the lines that are refused comes to what the whole of it does.

* `Builder.clean`: the lines of a run that are left without those; `cleaned`: the lines of a trace.
* `Builder.Alike`: two builders have the same graph and frames, and have counted the same but for lines
  and refusals; `Alike.addRecord`: a record that the one takes, the other takes with the same effect.
* `Builder.Paired`: what holds of the builders of the two runs; `Paired.refuse`, `Paired.addRecord`: a line
  that is refused goes past the second one, and a record that is taken keeps the two paired.
* `Paired.addLinesFrom_clean`: so do the runs over lines and over what is left of them.
* `load_cleaned`: a cleaned trace has no line refused, and comes to the same.
-/

namespace CallAtlas.Graph

open Trace

/-- The number of a line comes to its record as it is. -/
theorem parseLine_renumber {line : String} {lineNo : Option Int} {r : Record}
    (h : parseLine line lineNo = .ok r) (lineNo' : Option Int) :
    parseLine line lineNo' = .ok { r with lineNo := lineNo' } := by
  unfold parseLine at h ⊢
  dsimp only at h ⊢
  cases hfields : Fields.ofLine (Text.dropTrailing isLineEnd line.toList) <;> rw [hfields] at h <;> cases h
  rfl

/-! ## Lines to leave out -/

namespace Builder

/-- The lines without those that are blank, and without those that the run counts as refused. -/
def clean (b : Builder) (lineNo : Nat) : List String → List String
  | [] => []
  | line :: rest =>
    if Text.allBlank line then clean b.countLine (lineNo + 1) rest
    else
      let next := (b.countLine.addLine (fun _ => true) lineNo line).1
      if next.stats.malformed = b.stats.malformed then line :: clean next (lineNo + 1) rest
      else clean next (lineNo + 1) rest

section

variable {b b' : Builder} {lineNo : Nat} {line : String}

theorem clean_of_blank (hblank : Text.allBlank line = true) (rest : List String) :
    b.clean lineNo (line :: rest) = b.countLine.clean (lineNo + 1) rest :=
  if_pos hblank

/-- A line that is counted as refused does not stay. -/
theorem clean_of_refused (hblank : Text.allBlank line = false)
    (hline : b.countLine.addLine (fun _ => true) lineNo line = (b', .ok ()))
    (hcount : b'.stats.malformed = b.stats.malformed + 1) (rest : List String) :
    b.clean lineNo (line :: rest) = b'.clean (lineNo + 1) rest := by
  rw [clean, if_neg (Bool.eq_false_iff.1 hblank), hline]
  exact if_neg (by dsimp only; omega)

/-- A line whose record is taken stays. -/
theorem clean_of_taken (hblank : Text.allBlank line = false)
    (hline : b.countLine.addLine (fun _ => true) lineNo line = (b', .ok ()))
    (hcount : b'.stats.malformed = b.stats.malformed) (rest : List String) :
    b.clean lineNo (line :: rest) = line :: b'.clean (lineNo + 1) rest := by
  rw [clean, if_neg (Bool.eq_false_iff.1 hblank), hline]
  exact if_pos hcount

end

end Builder

/-- The trace without its blank lines and its lines that are counted as refused; its header stays. -/
def cleaned (header : String) (lines : List String) : List String :=
  header :: ({} : Builder).countLine.clean 2 lines

/-! ## Builders that are alike -/

namespace Builder

/-- The builders have the same graph and the same frames, and have counted the same of records, entry points
and calls. -/
structure Alike (b b' : Builder) : Prop where
  graph : b'.graph = b.graph
  frames : b'.frames = b.frames
  records : b'.stats.records = b.stats.records
  entrypoints : b'.stats.entrypoints = b.stats.entrypoints
  edges : b'.stats.edges = b.stats.edges
  duplicateEdges : b'.stats.duplicateEdges = b.stats.duplicateEdges
  unexpected : b'.stats.unexpectedEntries.length = b.stats.unexpectedEntries.length

variable {b b' b₁ : Builder} {top : Int} {taken : List Record} {r : Record}

namespace Alike

theorem refuse_left (h : Alike b b') (m : Malformed) : Alike (b.refuse m) b' where
  graph := h.graph
  frames := h.frames
  records := h.records
  entrypoints := h.entrypoints
  edges := h.edges
  duplicateEdges := h.duplicateEdges
  unexpected := by
    rw [h.unexpected, ← List.append_nil b.stats.unexpectedEntries]
    exact (congrArg List.length (b.unexpectedEntries_note (.malformed m))).symm

theorem checkEntry (h : Alike b b') (r : Record) (lineNo : Option Int) :
    Alike (b.checkEntry r) (b'.checkEntry { r with lineNo }) := by
  obtain ⟨notices, heq, hlist⟩ := b.checkEntry_eq r
  obtain ⟨notices', heq', hlist'⟩ := b'.checkEntry_eq { r with lineNo }
  have hlen : (b'.checkEntry { r with lineNo }).stats.unexpectedEntries.length =
      (b.checkEntry r).stats.unexpectedEntries.length := by
    rw [hlist, hlist', List.length_append, List.length_append, h.unexpected]
    dsimp only
    split <;> rfl
  rw [heq, heq'] at hlen ⊢
  exact { h with unexpected := hlen }

theorem enter (h : Alike b b') (id : MethodId) :
    Alike (b.enter id).1 (b'.enter id).1 ∧ (b'.enter id).2 = (b.enter id).2 := by
  obtain ⟨graph, frames, origin, stats⟩ := b
  obtain ⟨graph', frames', origin', stats'⟩ := b'
  obtain ⟨rfl, rfl, hrecords, hentry, hedges, hduplicates, hunexpected⟩ := h
  unfold Builder.enter
  dsimp only at *
  split
  · exact ⟨⟨rfl, rfl, hrecords, hentry, hedges, hduplicates, hunexpected⟩, rfl⟩
  · exact ⟨⟨rfl, rfl, hrecords, congrArg (countIf _) hentry, hedges, hduplicates, hunexpected⟩, rfl⟩

theorem connect (h : Alike b b') (e : CallEdge) :
    Alike (b.connect e).1 (b'.connect e).1 ∧ (b'.connect e).2 = (b.connect e).2 := by
  obtain ⟨graph, frames, origin, stats⟩ := b
  obtain ⟨graph', frames', origin', stats'⟩ := b'
  obtain ⟨rfl, rfl, hrecords, hentry, hedges, hduplicates, hunexpected⟩ := h
  unfold Builder.connect
  dsimp only at *
  split
  · exact ⟨⟨rfl, rfl, hrecords, hentry, hedges, hduplicates, hunexpected⟩, rfl⟩
  · exact ⟨⟨rfl, rfl, hrecords, hentry, congrArg (countIf _) hedges, congrArg (countIf _) hduplicates, hunexpected⟩, rfl⟩

theorem placed (h : Alike b b') (level : Nat) (g : CallGraph) (id : MethodId) :
    Alike (b.placed level g id) (b'.placed level g id) where
  graph := rfl
  frames := by rw [Builder.placed, Builder.placed, h.frames]
  records := congrArg (· + 1) h.records
  entrypoints := h.entrypoints
  edges := h.edges
  duplicateEdges := h.duplicateEdges
  unexpected := h.unexpected

/-- Alike builders place a record, whatever its number, with the same outcome. -/
theorem place (h : Alike b b') (lineNo : Option Int) {level : Nat}
    (hplace : b.place r level = (b₁, .ok ())) :
    ∃ b₁', b'.place { r with lineNo } level = (b₁', .ok ()) ∧ Alike b₁ b₁' := by
  rcases b.place_cases r level with ⟨g, e, -, heq⟩ | ⟨g, id, hadd, hplaced⟩
  · rw [hplace] at heq
    cases heq
  · rw [place_eq (by rwa [h.graph]), h.frames]
    rcases hplaced with ⟨hnil, heq⟩ | ⟨caller, hlast, heq⟩ <;> rw [hplace] at heq
    · have := ((h.placed level g id).checkEntry r lineNo).enter id
      rw [← heq] at this
      rw [hnil]
      exact ⟨_, Prod.ext rfl this.2, this.1⟩
    · have := (h.placed level g id).connect ⟨r.callType, caller, id⟩
      rw [← heq] at this
      rw [hlast]
      exact ⟨_, Prod.ext rfl this.2, this.1⟩

/-- A record that the one builder takes, the other takes too, whatever its number. -/
theorem addRecord (h : Alike b b') (lineNo : Option Int)
    (horigin : b'.origin.getD (min r.depth 0) = b.origin.getD (min r.depth 0))
    (hadd : b.addRecord r = (b₁, .ok ())) :
    ∃ b₁', b'.addRecord { r with lineNo } = (b₁', .ok ()) ∧ Alike b₁ b₁' ∧ b₁'.origin = b₁.origin ∧
      b₁'.stats.malformed = b'.stats.malformed := by
  have hopen : b'.depth = b.depth := congrArg List.length h.frames
  have hcases := b.addRecord_cases r
  have hcases' := b'.addRecord_cases { r with lineNo }
  dsimp only at hcases'
  rw [horigin, hopen] at hcases'
  generalize b.origin.getD _ = top at hcases hcases'
  rcases hcases with ⟨-, m, heq⟩ | ⟨h0, hle, heq⟩
  · rw [hadd] at heq
    cases heq
  · rcases hcases' with ⟨hout, -⟩ | ⟨-, -, heq'⟩
    · omega
    · have hat : Alike { b with origin := some top } { b' with origin := some top } := { h with }
      have hframe := place_frame { b with origin := some top } r (r.depth - top).toNat
      have hframe' := place_frame { b' with origin := some top } { r with lineNo } (r.depth - top).toNat
      rw [heq] at hadd
      obtain ⟨b₁', hplace, halike⟩ := hat.place lineNo hadd
      rw [hadd] at hframe
      rw [hplace] at hframe'
      exact ⟨b₁', heq'.trans hplace, halike, hframe'.1.trans hframe.1.symm, hframe'.2⟩

end Alike

/-! ## The two runs -/

/-- The builder of a run, with the records that it has taken, and that of the run over what is left of its
lines. Until the first record is taken, the second one may not know yet at which level the records begin. -/
structure Paired (top : Int) (taken : List Record) (b b' : Builder) : Prop where
  nonpos : top ≤ 0
  follows : Follows b top taken
  alike : Alike b b'
  origin : b'.origin = some top ∨ b'.origin = none ∧ taken = []

namespace Paired

theorem countLine (h : Paired top taken b b') : Paired top taken b.countLine b' where
  nonpos := h.nonpos
  follows := { h.follows with }
  alike := { h.alike with }
  origin := h.origin

/-- A line refused goes past the second builder. -/
theorem refuse (h : Paired top taken b b') (origin : Option Int) (m : Malformed) :
    Paired top taken (Builder.refuse { b with origin } m) b' where
  nonpos := h.nonpos
  follows := { h.follows.refuse m with }
  alike := { h.alike.refuse_left m with }
  origin := h.origin

/-- The first record taken is at the top, so it fixes that level again if nothing else has. -/
theorem getD_origin (h : Paired top taken b b') (hr : Fits top taken r) :
    b'.origin.getD (min r.depth 0) = top := by
  rcases h.origin with horigin | ⟨horigin, rfl⟩ <;> rw [horigin]
  · rfl
  · have h0 := h.nonpos
    rw [fits_nil_iff] at hr
    rw [Option.getD_none]
    omega

/-- A record that fits is taken by both. -/
theorem addRecord (h : Paired top taken b b') (htop : b.origin.getD (min r.depth 0) = top)
    (hr : Fits top taken r) (lineNo : Option Int) :
    ∃ b₁ b₁', b.addRecord r = (b₁, .ok ()) ∧ b'.addRecord { r with lineNo } = (b₁', .ok ()) ∧
      Paired top (taken ++ [r]) b₁ b₁' ∧ b₁.origin = some top ∧
      b₁.stats.malformed = b.stats.malformed ∧ b₁'.stats.malformed = b'.stats.malformed := by
  obtain ⟨b₁, hadd, hfollows, horigin, hcount⟩ := h.follows.addRecord_of_fits htop hr
  obtain ⟨b₁', hadd', halike, horigin', hcount'⟩ :=
    h.alike.addRecord lineNo ((h.getD_origin hr).trans htop.symm) hadd
  exact ⟨b₁, b₁', hadd, hadd', ⟨h.nonpos, hfollows, halike, .inl (horigin'.trans horigin)⟩, horigin, hcount,
    hcount'⟩

/-- The runs over lines, and over what is left of them, keep the builders alike, and the second one counts
nothing as refused. -/
theorem addLinesFrom_clean {lineNo lineNo' : Nat} (hlineNo : 1 < lineNo) (hlineNo' : 1 < lineNo')
    (lines : List String) (h : Paired top taken b b')
    (htop : b.origin.getD (startLevel (readable true lineNo lines)) = top) :
    let run := (b.addLinesFrom (fun _ => true) true lineNo lines).1
    let run' := (b'.addLinesFrom (fun _ => true) true lineNo' (b.clean lineNo lines)).1
    Alike run run' ∧ run'.stats.malformed = b'.stats.malformed := by
  induction lines generalizing b b' taken lineNo lineNo' with
  | nil => exact ⟨h.alike, rfl⟩
  | cons line rest ih =>
    have hnext := Nat.lt_succ_of_lt hlineNo
    have hout := isLeftOut_of_lt hlineNo line
    have hout' := isLeftOut_of_lt hlineNo' line
    rw [readable, hout] at htop
    cases hblank : Text.allBlank line with
    | true =>
      rw [hblank] at hout htop
      rw [addLinesFrom_of_leftOut hout, clean_of_blank hblank]
      exact ih hnext hlineNo' h.countLine htop
    | false =>
      rw [hblank] at hout hout' htop
      cases hread : parseLine line (some lineNo) with
      | error m =>
        have hline : b.countLine.addLine (fun _ => true) lineNo line = _ := addLine_of_error hread
        rw [hread] at htop
        rw [addLinesFrom_of_addLine hout hline, clean_of_refused hblank hline rfl]
        exact ih hnext hlineNo' (h.countLine.refuse b.origin m) htop
      | ok r =>
        rw [hread] at htop
        by_cases hr : Fits top taken r
        · have hboth : Paired top taken b.countLine b'.countLine :=
            { h.countLine with alike := { h.alike with } }
          obtain ⟨b₁, b₁', hadd, hadd', h₁, horigin, hcount, hcount'⟩ :=
            hboth.addRecord htop hr (some lineNo')
          have hline : b.countLine.addLine (fun _ => true) lineNo line = _ := addLine_of_taken hread hadd
          have hline' : b'.countLine.addLine (fun _ => true) lineNo' line = _ :=
            addLine_of_taken (parseLine_renumber hread _) hadd'
          rw [addLinesFrom_of_addLine hout hline, clean_of_taken hblank hline hcount,
            addLinesFrom_of_addLine hout' hline']
          obtain ⟨hrun, hmalformed⟩ :=
            ih hnext (Nat.lt_succ_of_lt hlineNo') h₁ (by rw [horigin, Option.getD_some])
          exact ⟨hrun, hmalformed.trans hcount'⟩
        · obtain ⟨m, hadd⟩ := h.countLine.follows.addRecord_of_not_fits htop hr
          have hline : b.countLine.addLine (fun _ => true) lineNo line = _ :=
            addLine_of_refused hread hadd rfl
          rw [addLinesFrom_of_addLine hout hline, clean_of_refused hblank hline rfl]
          exact ih hnext hlineNo' (h.countLine.refuse (some top) m) rfl

end Paired

end Builder

/-- **A cleaned trace comes to what the whole trace does.** -/
theorem load_cleaned (header : String) (lines : List String) :
    let whole := load (header :: lines)
    let clean := load (cleaned header lines)
    clean.stats.malformed = 0 ∧ clean.graph = whole.graph ∧ clean.stats.records = whole.stats.records ∧
      clean.stats.entrypoints = whole.stats.entrypoints ∧ clean.stats.edges = whole.stats.edges ∧
      clean.stats.duplicateEdges = whole.stats.duplicateEdges ∧
      clean.stats.warnings.length = whole.stats.warnings.length := by
  intro whole clean
  have hpaired : Builder.Paired (startLevel (readable true 2 lines)) [] ({} : Builder).countLine
      ({} : Builder).countLine :=
    ⟨startLevel_nonpos _, { Builder.Follows.empty _ with }, ⟨rfl, rfl, rfl, rfl, rfl, rfl, rfl⟩, .inr ⟨rfl, rfl⟩⟩
  obtain ⟨hrun, hmalformed⟩ :=
    hpaired.addLinesFrom_clean (Nat.lt_succ_self 1) (Nat.lt_succ_self 1) lines rfl
  have hload : ∀ rest, load (header :: rest) =
      let b := (({} : Builder).countLine.addLinesFrom (fun _ => true) true 2 rest).1
      ⟨b.graph.freeze, b.stats⟩ := fun _ => rfl
  have hwhole : whole = _ := hload lines
  have hclean : clean = _ := hload _
  rw [hwhole, hclean]
  refine ⟨hmalformed, congrArg CallGraph.freeze hrun.graph, hrun.records, hrun.entrypoints, hrun.edges,
    hrun.duplicateEdges, ?_⟩
  rw [LoadStats.warnings, LoadStats.warnings, List.length_map, List.length_map]
  exact hrun.unexpected

/-- The first record skips a level, and fixes where the records begin; without it, the second one does. -/
example : cleaned "header" ["        directly calls app.Main.stop():", "", "    entry app.Main.run():", "run()",
    "            directly calls app.Main.stop():", "        directly calls app.Main.stop():"] =
      ["header", "    entry app.Main.run():", "        directly calls app.Main.stop():"] := by
  decide +kernel

end CallAtlas.Graph
