import CallAtlas.Graph.Build
import CallAtlas.Proofs.Graph.Filling

/-!
# What a builder builds

The builder keeps the open calls as a stack that it trims; the graph that it builds is the one that the
whole list of records taken stands for.

* `place_cases`, `addRecord_cases`: what a step can do; `enter_frame`, `connect_frame`, `place_frame`: what it
  leaves as it was.
* `Follows`: a builder is in step with the records taken. Each frame is the method of the latest record
  at its level.
* `Follows.addRecord_of_fits`, `Follows.addRecord_of_not_fits`: a step takes the record exactly if it
  fits, and keeps the builder in step; `Follows.addRecords`: so does a run.
* `addRecords_correct`: the steps' answers and the graph after any list of records.
-/

namespace CallAtlas.Graph

open Trace

namespace Builder

/-- Adds the records one after the other; one that is refused leaves the builder to the next one. -/
def addRecords (b : Builder) (rs : List Record) : Builder :=
  rs.foldl (fun b r => (b.addRecord r).1) b

/-- The entry points among the records taken whose call type is not the expected one. -/
def unexpected (top : Int) (taken : List Record) : List UnexpectedEntry :=
  (taken.filter fun r => r.depth = top ∧ r.callType ≠ entryCallType).map fun r =>
    ⟨r.lineNo, r.method, r.callType⟩

/-- The builder's graph, frames and counts are those of the records taken. -/
structure Follows (b : Builder) (top : Int) (taken : List Record) : Prop where
  filling : b.graph.Filling
  depth : (b.depth : Int) = openLevels top taken
  /-- A frame is the method of the latest record at its level. -/
  frames : ∀ (level : Nat) (id : MethodId), b.frames[level]? = some id →
    ∃ r, latest taken (top + level) = some r ∧ b.graph.nameOf? id = some r.method
  methods : b.graph.methodList = (taken.map (·.method)).eraseDups
  classes : b.graph.classList = (taken.map (·.method.className)).eraseDups
  entrypoints : b.graph.entrypoints.toList.map b.graph.nameOf? =
    ((taken.filter (·.depth = top)).map (·.method)).eraseDups.map some
  calls : ∀ c, b.graph.Calls c ↔ Made top taken c
  records : b.stats.records = taken.length
  unexpectedEntries : b.stats.unexpectedEntries = unexpected top taken

/-! ## Parts of a step -/

theorem unexpected_append_singleton (top : Int) (taken : List Record) (r : Record) :
    unexpected top (taken ++ [r]) = unexpected top taken ++
      if r.depth = top ∧ r.callType ≠ entryCallType then [⟨r.lineNo, r.method, r.callType⟩] else [] := by
  unfold unexpected
  rw [List.filter_append, List.map_append]
  by_cases h : r.depth = top ∧ r.callType ≠ entryCallType <;> simp [h]

theorem unexpectedEntries_note (b : Builder) (n : Notice) :
    (b.note n).stats.unexpectedEntries = b.stats.unexpectedEntries ++ n.unexpectedEntry?.toList := by
  rw [note, LoadStats.unexpectedEntries, LoadStats.unexpectedEntries, Array.toList_push,
    List.filterMap_append]
  cases h : n.unexpectedEntry? <;> simp [h]

/-- What checking an entry point leaves as it was. -/
theorem checkEntry_eq (b : Builder) (r : Record) : ∃ notices,
    b.checkEntry r = { b with stats := { b.stats with notices } } ∧
    (b.checkEntry r).stats.unexpectedEntries = b.stats.unexpectedEntries ++
      if r.callType ≠ entryCallType then [⟨r.lineNo, r.method, r.callType⟩] else [] := by
  unfold checkEntry
  by_cases h : r.callType = entryCallType
  · exact ⟨b.stats.notices, by simp [h]⟩
  · refine ⟨_, by rw [if_neg h, note], ?_⟩
    rw [if_neg h, unexpectedEntries_note, if_pos h]
    rfl

theorem enter_eq {b : Builder} {id : MethodId} {g : CallGraph} {isNew : Bool}
    (h : b.graph.addEntrypoint id = (g, .ok isNew)) : ∃ entrypoints,
    b.enter id = ({ b with graph := g, stats := { b.stats with entrypoints } }, .ok ()) := by
  obtain ⟨graph, frames, origin, stats⟩ := b
  dsimp only at h
  exact ⟨countIf isNew stats.entrypoints, by rw [enter, h]⟩

theorem connect_eq {b : Builder} {e : CallEdge} {g : CallGraph} {isNew : Bool}
    (h : b.graph.addEdge e = (g, .ok isNew)) : ∃ edges duplicateEdges,
    b.connect e = ({ b with graph := g, stats := { b.stats with edges, duplicateEdges } }, .ok ()) := by
  obtain ⟨graph, frames, origin, stats⟩ := b
  dsimp only at h
  exact ⟨countIf isNew stats.edges, countIf (!isNew) stats.duplicateEdges, by rw [connect, h]⟩

/-- The builder with the record's method as its innermost frame, before the record is connected. -/
def placed (b : Builder) (level : Nat) (g : CallGraph) (id : MethodId) : Builder where
  graph := g
  frames := b.frames.take level ++ [id]
  origin := b.origin
  stats := { b.stats with records := b.stats.records + 1 }

theorem place_eq {b : Builder} {r : Record} {level : Nat} {g : CallGraph} {id : MethodId}
    (h : b.graph.addNamed r.method = (g, .ok id)) :
    b.place r level = match (b.frames.take level).getLast? with
      | none => ((b.placed level g id).checkEntry r).enter id
      | some caller => (b.placed level g id).connect ⟨r.callType, caller, id⟩ := by
  obtain ⟨graph, frames, origin, stats⟩ := b
  dsimp only at h
  rw [place, h]
  rfl

/-- What placing a record can do: the graph refuses its names, or it becomes the innermost frame and is
connected, as an entry point or with the frame above it. -/
theorem place_cases (b : Builder) (r : Record) (level : Nat) :
    (∃ g e, b.graph.addNamed r.method = (g, .error e) ∧
      b.place r level = ({ b with graph := g, frames := b.frames.take level }, .error (.graph e))) ∨
    ∃ g id, b.graph.addNamed r.method = (g, .ok id) ∧
      ((b.frames.take level = [] ∧
          b.place r level = ((b.placed level g id).checkEntry r).enter id) ∨
        ∃ caller, (b.frames.take level).getLast? = some caller ∧
          b.place r level = (b.placed level g id).connect ⟨r.callType, caller, id⟩) := by
  cases hadd : b.graph.addNamed r.method with
  | mk g out =>
    cases out with
    | error e =>
      refine .inl ⟨g, e, rfl, ?_⟩
      obtain ⟨graph, frames, origin, stats⟩ := b
      dsimp only at hadd
      rw [place, hadd]
    | ok id =>
      refine .inr ⟨g, id, rfl, ?_⟩
      rw [place_eq hadd]
      cases hlast : (b.frames.take level).getLast? with
      | none => exact .inl ⟨List.getLast?_eq_none_iff.1 hlast, rfl⟩
      | some caller => exact .inr ⟨caller, rfl, rfl⟩

/-- What making a method an entry point leaves as it was, whatever comes of it. -/
theorem enter_frame (b : Builder) (id : MethodId) : ∃ graph entrypoints out,
    b.enter id = ({ b with graph, stats := { b.stats with entrypoints } }, out) := by
  obtain ⟨graph, frames, origin, stats⟩ := b
  unfold enter
  dsimp only
  split
  · exact ⟨_, stats.entrypoints, _, rfl⟩
  · exact ⟨_, _, _, rfl⟩

/-- What connecting two methods leaves as it was, whatever comes of it. -/
theorem connect_frame (b : Builder) (e : CallEdge) : ∃ graph edges duplicateEdges out,
    b.connect e = ({ b with graph, stats := { b.stats with edges, duplicateEdges } }, out) := by
  obtain ⟨graph, frames, origin, stats⟩ := b
  unfold connect
  dsimp only
  split
  · exact ⟨_, stats.edges, stats.duplicateEdges, _, rfl⟩
  · exact ⟨_, _, _, _, rfl⟩

/-- To place a record leaves the level at which the records begin, and counts nothing as refused. -/
theorem place_frame (b : Builder) (r : Record) (level : Nat) :
    (b.place r level).1.origin = b.origin ∧
      (b.place r level).1.stats.malformed = b.stats.malformed := by
  rcases b.place_cases r level with ⟨g, e, -, heq⟩ | ⟨g, id, -, ⟨-, heq⟩ | ⟨caller, -, heq⟩⟩ <;> rw [heq]
  · exact ⟨rfl, rfl⟩
  · obtain ⟨notices, hcheck, -⟩ := checkEntry_eq (b.placed level g id) r
    rw [hcheck]
    obtain ⟨graph, entrypoints, out, henter⟩ := enter_frame { b.placed level g id with
      stats := { (b.placed level g id).stats with notices } } id
    rw [henter]
    exact ⟨rfl, rfl⟩
  · obtain ⟨graph, edges, duplicateEdges, out, hconnect⟩ :=
      (b.placed level g id).connect_frame ⟨r.callType, caller, id⟩
    rw [hconnect]
    exact ⟨rfl, rfl⟩

/-- What adding a record can do: it is refused at its level, and leaves the level at which the records
begin, or it is placed there. -/
theorem addRecord_cases (b : Builder) (r : Record) :
    let top := b.origin.getD (min r.depth 0)
    ((r.depth < top ∨ b.depth < r.depth - top) ∧
      ∃ m, b.addRecord r = ({ b with origin := some top }, .error (.malformed m))) ∨
    (top ≤ r.depth ∧ r.depth - top ≤ b.depth ∧
      b.addRecord r = { b with origin := some top }.place r (r.depth - top).toNat) := by
  intro top
  have htop : b.origin.getD (if r.depth < 0 then r.depth else 0) = top := by
    congr 1
    omega
  rw [addRecord, htop]
  by_cases h0 : r.depth - top < 0
  · rw [if_pos h0]
    exact .inl ⟨.inl (by omega), _, rfl⟩
  · rw [if_neg h0]
    by_cases hle : (b.depth : Int) < r.depth - top
    · exact .inl ⟨.inr hle, _, if_pos hle⟩
    · exact .inr ⟨by omega, by omega, if_neg hle⟩

/-- The first record fixes the level at which the records begin. -/
theorem origin_addRecord (b : Builder) (r : Record) :
    (b.addRecord r).1.origin = some (b.origin.getD (min r.depth 0)) := by
  rcases b.addRecord_cases r with ⟨-, m, heq⟩ | ⟨-, -, heq⟩ <;> rw [heq]
  exact (place_frame _ r _).1

namespace Follows

variable {b : Builder} {top : Int} {taken : List Record} {r : Record}

theorem empty (top : Int) : Follows {} top [] where
  filling := .empty
  depth := by simp [Builder.depth, openLevels]
  frames := by simp
  methods := by simp [CallGraph.methodList]
  classes := by simp [CallGraph.classList]
  entrypoints := by simp
  calls c := by
    refine iff_of_false ?_ made_nil
    rintro ⟨e, ⟨m, hm, -⟩, -⟩
    simp at hm
  records := rfl
  unexpectedEntries := rfl

/-- All levels above the record are open, so as many frames stay. -/
private theorem length_take_frames (h : Follows b top taken) (hr : Fits top taken r) :
    (b.frames.take (r.depth - top).toNat).length = (r.depth - top).toNat := by
  have hdepth := h.depth
  have hle := hr.2
  rw [Builder.depth] at hdepth
  rw [List.length_take]
  omega

/-- The frames that stay open are those of the levels above the record; the record's own frame follows. -/
private theorem frames_snoc (h : Follows b top taken) (hr : Fits top taken r) {g : CallGraph}
    (hkeep : ∀ id name, b.graph.nameOf? id = some name → g.nameOf? id = some name) {id : MethodId}
    (hid : g.nameOf? id = some r.method) {level : Nat} {i : MethodId}
    (hi : (b.frames.take (r.depth - top).toNat ++ [id])[level]? = some i) :
    ∃ s, latest (taken ++ [r]) (top + level) = some s ∧ g.nameOf? i = some s.method := by
  have hlen := h.length_take_frames hr
  have hr0 := hr.1
  rw [latest_append_singleton]
  rcases Nat.lt_trichotomy level (r.depth - top).toNat with hlt | rfl | hlt
  · -- A level above the record keeps its frame and its latest record.
    rw [List.getElem?_append_left (by omega), List.getElem?_take_of_lt hlt] at hi
    obtain ⟨s, hs, hname⟩ := h.frames level i hi
    rw [if_neg (by omega)]
    exact ⟨s, hs, hkeep i _ hname⟩
  · rw [if_pos (by omega)]
    rw [List.getElem?_append_right (by omega), hlen] at hi
    simp only [Nat.sub_self, List.getElem?_cons_zero, Option.some.injEq] at hi
    exact ⟨r, rfl, hi ▸ hid⟩
  · rw [List.getElem?_eq_none (by simp only [List.length_append, List.length_singleton]; omega)] at hi
    cases hi

/-- A builder whose graph has the record's names, and whose frames end with it, is in step with one record
more. -/
private theorem snoc (h : Follows b top taken) (hr : Fits top taken r) {b' : Builder} {id : MethodId}
    (hfill : b'.graph.Filling) (hid : b'.graph.nameOf? id = some r.method)
    (hframes : b'.frames = b.frames.take (r.depth - top).toNat ++ [id])
    (hmethods : b'.graph.methodList = appendNew b.graph.methodList r.method)
    (hclasses : b'.graph.classList = appendNew b.graph.classList r.method.className)
    (hentry : b'.graph.entrypoints.toList.map b'.graph.nameOf? =
      (((taken ++ [r]).filter (·.depth = top)).map (·.method)).eraseDups.map some)
    (hcalls : ∀ c, b'.graph.Calls c ↔ Made top (taken ++ [r]) c)
    (hrecords : b'.stats.records = b.stats.records + 1)
    (hunexpected : b'.stats.unexpectedEntries = unexpected top (taken ++ [r])) :
    Follows b' top (taken ++ [r]) where
  filling := hfill
  depth := by
    have hr0 := hr.1
    rw [openLevels_append_singleton, Builder.depth, hframes, List.length_append,
      h.length_take_frames hr, List.length_singleton]
    omega
  frames level i hi := by
    rw [hframes] at hi
    refine h.frames_snoc hr (fun i name hname => ?_) hid hi
    rw [CallGraph.nameOf?_eq] at hname ⊢
    rw [hmethods]
    exact getElem?_appendNew hname r.method
  methods := by
    rw [hmethods, h.methods, List.map_append, List.map_singleton, eraseDups_append_singleton]
  classes := by
    rw [hclasses, h.classes, List.map_append, List.map_singleton, eraseDups_append_singleton]
  entrypoints := hentry
  calls := hcalls
  records := by rw [hrecords, h.records, List.length_append, List.length_singleton]
  unexpectedEntries := hunexpected

/-- The frame above a record below `top` is the method of the latest record one level up. -/
private theorem getLast?_take (h : Follows b top taken) (hr : Fits top taken r) (hlt : top < r.depth) :
    ∃ caller j, (b.frames.take (r.depth - top).toNat).getLast? = some caller ∧
      latest taken (r.depth - 1) = some j ∧ b.graph.nameOf? caller = some j.method := by
  have hlen := h.length_take_frames hr
  have hlast : (r.depth - top).toNat - 1 < b.frames.length := by
    rw [List.length_take] at hlen
    omega
  obtain ⟨j, hj, hname⟩ := h.frames _ _ (List.getElem?_eq_getElem hlast)
  refine ⟨_, j, ?_, ?_, hname⟩
  · rw [List.getLast?_eq_getElem?, hlen, List.getElem?_take_of_lt (by omega)]
    exact List.getElem?_eq_getElem hlast
  · rw [← hj]
    congr 1
    omega

/-- A record below `top` is connected with the innermost frame that stays open. -/
private theorem place_call (h : Follows b top taken) (hr : Fits top taken r) (htop : top < r.depth)
    {g₁ : CallGraph} {id : MethodId} (heq₁ : b.graph.addNamed r.method = (g₁, .ok id))
    (h₁ : b.graph.Named r.method g₁ id) :
    ∃ b', b.place r (r.depth - top).toNat = (b', .ok ()) ∧ Follows b' top (taken ++ [r]) ∧
      b'.origin = b.origin ∧ b'.stats.malformed = b.stats.malformed := by
  obtain ⟨caller, j, hlast, hj, hname⟩ := h.getLast?_take hr htop
  obtain ⟨g₂, isNew, heq₂, hfill₂, hmethods₂, hclasses₂, hentry₂, hcalls₂⟩ :=
    h₁.filling.addEdge r.callType (h₁.keep hname) h₁.id
  obtain ⟨edges, duplicateEdges, heq⟩ := connect_eq (b := b.placed (r.depth - top).toNat g₁ id) heq₂
  have hnameOf := CallGraph.nameOf?_congr hmethods₂
  rw [place_eq heq₁, hlast]
  refine ⟨_, heq, h.snoc hr hfill₂ (hnameOf ▸ h₁.id) rfl (hmethods₂.trans h₁.methods)
    (hclasses₂.trans h₁.classes) ?_ (fun c => ?_) rfl ?_, rfl, rfl⟩
  · show g₂.entrypoints.toList.map g₂.nameOf? = _
    rw [hentry₂, h₁.entrypoints, hnameOf, h₁.map_nameOf? h.entrypoints, List.filter_append]
    simp [Int.ne_of_gt htop]
  · show g₂.Calls c ↔ _
    rw [hcalls₂, h₁.calls h.filling.toCallsAgree, h.calls, made_append_singleton]
    simp [htop, hj]
  · show b.stats.unexpectedEntries = _
    rw [h.unexpectedEntries, unexpected_append_singleton]
    simp [Int.ne_of_gt htop]

/-- A record at `top` becomes an entry point. -/
private theorem place_entry (h : Follows b top taken) (hr : Fits top taken r) (htop : r.depth = top)
    {g₁ : CallGraph} {id : MethodId} (heq₁ : b.graph.addNamed r.method = (g₁, .ok id))
    (h₁ : b.graph.Named r.method g₁ id) :
    ∃ b', b.place r (r.depth - top).toNat = (b', .ok ()) ∧ Follows b' top (taken ++ [r]) ∧
      b'.origin = b.origin ∧ b'.stats.malformed = b.stats.malformed := by
  have hnames₁ := h₁.map_nameOf? h.entrypoints
  rw [← h₁.entrypoints] at hnames₁
  obtain ⟨g₂, isNew, heq₂, hfill₂, hmethods₂, hclasses₂, hentry₂, hcalls₂⟩ :=
    h₁.filling.addEntrypoint h₁.id hnames₁
  obtain ⟨notices, hcheck, hunexpected⟩ := checkEntry_eq (b.placed (r.depth - top).toNat g₁ id) r
  rw [hcheck] at hunexpected
  obtain ⟨entrypoints, heq⟩ := enter_eq (b := { b.placed (r.depth - top).toNat g₁ id with
    stats := { (b.placed (r.depth - top).toNat g₁ id).stats with notices } }) heq₂
  have hnameOf := CallGraph.nameOf?_congr hmethods₂
  have hlast : (b.frames.take (r.depth - top).toNat).getLast? = none := by simp [htop]
  rw [place_eq heq₁, hlast]
  dsimp only
  rw [hcheck]
  refine ⟨_, heq, h.snoc hr hfill₂ (hnameOf ▸ h₁.id) rfl (hmethods₂.trans h₁.methods)
    (hclasses₂.trans h₁.classes) ?_ (fun c => ?_) rfl ?_, rfl, rfl⟩
  · show g₂.entrypoints.toList.map g₂.nameOf? = _
    rw [hentry₂, List.filter_append]
    simp [htop, eraseDups_append_singleton]
  · show g₂.Calls c ↔ _
    rw [hcalls₂, h₁.calls h.filling.toCallsAgree, h.calls, made_append_singleton]
    simp [htop]
  · rw [unexpected_append_singleton, ← h.unexpectedEntries]
    simp only [htop, true_and]
    exact hunexpected

/-- A record that fits is placed. -/
private theorem place (h : Follows b top taken) (hr : Fits top taken r) :
    ∃ b', b.place r (r.depth - top).toNat = (b', .ok ()) ∧ Follows b' top (taken ++ [r]) ∧
      b'.origin = b.origin ∧ b'.stats.malformed = b.stats.malformed := by
  obtain ⟨g₁, id, heq₁, h₁⟩ := h.filling.addNamed r.method
  by_cases htop : top < r.depth
  · exact h.place_call hr htop heq₁ h₁
  · have := hr.1
    exact h.place_entry hr (by omega) heq₁ h₁

/-! ## Steps and runs -/

theorem fits_iff (h : Follows b top taken) (r : Record) :
    Fits top taken r ↔ 0 ≤ r.depth - top ∧ r.depth - top ≤ b.depth := by
  rw [Fits, h.depth]

/-- **A record that fits is taken**, and the builder stays in step. -/
theorem addRecord_of_fits (h : Follows b top taken) (htop : b.origin.getD (min r.depth 0) = top)
    (hr : Fits top taken r) :
    ∃ b', b.addRecord r = (b', .ok ()) ∧ Follows b' top (taken ++ [r]) ∧ b'.origin = some top ∧
      b'.stats.malformed = b.stats.malformed := by
  have h' : Follows { b with origin := some top } top taken := { h with }
  obtain ⟨b', hplace, hb'⟩ := h'.place hr
  rw [h.fits_iff] at hr
  have hcases := b.addRecord_cases r
  rw [htop] at hcases
  rcases hcases with ⟨hout, -⟩ | ⟨-, -, heq⟩
  · omega
  · exact ⟨b', heq.trans hplace, hb'⟩

/-- **A record that does not fit is refused**; all that stays of it is the level at which the records
begin. -/
theorem addRecord_of_not_fits (h : Follows b top taken) (htop : b.origin.getD (min r.depth 0) = top)
    (hr : ¬Fits top taken r) :
    ∃ m, b.addRecord r = ({ b with origin := some top }, .error (.malformed m)) := by
  rw [h.fits_iff] at hr
  have hcases := b.addRecord_cases r
  rw [htop] at hcases
  rcases hcases with ⟨-, hrefused⟩ | ⟨hge, hle, -⟩
  · exact hrefused
  · exact absurd ⟨by omega, hle⟩ hr

/-- A step keeps the builder in step, whether the record is taken or refused. -/
theorem addRecord (h : Follows b top taken) (htop : b.origin.getD (min r.depth 0) = top) :
    Follows (b.addRecord r).1 top (extend top taken r) ∧ (b.addRecord r).1.origin = some top := by
  by_cases hr : Fits top taken r
  · obtain ⟨b', heq, hb', horigin, -⟩ := h.addRecord_of_fits htop hr
    rw [heq, extend_of_fits hr]
    exact ⟨hb', horigin⟩
  · obtain ⟨m, heq⟩ := h.addRecord_of_not_fits htop hr
    rw [heq, extend_of_not_fits hr]
    exact ⟨{ h with }, rfl⟩

/-- A run keeps the builder in step. The level at which the records begin is fixed by the first one, be it
of this run or of what follows. -/
theorem addRecords (h : Follows b top taken) (rs rest : List Record)
    (htop : b.origin.getD (startLevel (rs ++ rest)) = top) :
    Follows (b.addRecords rs) top (rs.foldl (extend top) taken) ∧
      (b.addRecords rs).origin.getD (startLevel rest) = top := by
  induction rs generalizing b taken with
  | nil => exact ⟨h, htop⟩
  | cons r rs ih =>
    rw [List.cons_append, startLevel_cons] at htop
    obtain ⟨h₁, horigin⟩ := h.addRecord htop
    exact ih h₁ (by rw [horigin, Option.getD_some])

end Follows

/-- A builder without frames takes a record exactly if it stands at the level that it fixes. -/
theorem addRecord_empty_iff (r : Record) : (({} : Builder).addRecord r).2 = .ok () ↔ r.depth ≤ 0 := by
  have hfits : Fits (min r.depth 0) [] r ↔ r.depth ≤ 0 := by
    rw [fits_nil_iff]
    omega
  rw [← hfits]
  by_cases hr : Fits (min r.depth 0) [] r
  · obtain ⟨b', heq, -⟩ := (Follows.empty _).addRecord_of_fits rfl hr
    rw [heq]
    exact iff_of_true rfl hr
  · obtain ⟨m, heq⟩ := (Follows.empty _).addRecord_of_not_fits rfl hr
    rw [heq]
    exact iff_of_false (by simp) hr

/-- **The graph of a list of records is the one that the whole list stands for.** Each record is taken
exactly if it fits after those taken before it, and the frames are as many as there are levels open. The
methods and the classes are those of the records taken, numbered in the order in which they are first
named; the entry points are the methods of the records at the top. A call stands in the graph, at both of
its ends, exactly if a record below the top makes it from the latest record one level up, and there is
such a record. -/
theorem addRecords_correct (rs : List Record) :
    let top := startLevel rs
    let taken := accepted top rs
    let g := (({} : Builder).addRecords rs).graph
    (∀ before r after, rs = before ++ r :: after →
      (Fits top (accepted top before) r → ((addRecords {} before).addRecord r).2 = .ok ()) ∧
      (¬Fits top (accepted top before) r →
        ∃ m, ((addRecords {} before).addRecord r).2 = .error (.malformed m))) ∧
    (∀ before after, rs = before ++ after →
      ((addRecords {} before).depth : Int) = openLevels top (accepted top before)) ∧
    g.WellFormed ∧
    (g.methodList = (taken.map (·.method)).eraseDups ∧
      ∀ (i : MethodId) (m : MethodNode), g.methods[i]? = some m → m.id = i) ∧
    (g.classList = (taken.map (·.method.className)).eraseDups ∧
      ∀ (i : ClassId) (c : ClassNode), g.classes[i]? = some c → c.id = i) ∧
    g.entrypoints.toList.map g.nameOf? =
      ((taken.filter (·.depth = top)).map (·.method)).eraseDups.map some ∧
    (∀ before r after, taken = before ++ r :: after → top < r.depth →
      ∃ j, latest before (r.depth - 1) = some j) ∧
    (∀ (i : MethodId) (m : MethodNode), g.methods[i]? = some m → ∀ e : CallEdge,
      let isMade := ∃ c, Made top taken c ∧ e.callType = c.callType ∧
        g.methodId? c.caller = some e.caller ∧ g.methodId? c.callee = some e.callee
      (e ∈ m.forward ↔ e.caller = i ∧ isMade) ∧ (e ∈ m.reverse ↔ e.callee = i ∧ isMade)) := by
  intro top taken g
  have hrun : ∀ before after, rs = before ++ after →
      Follows (addRecords {} before) top (accepted top before) ∧
        (addRecords {} before).origin.getD (startLevel after) = top := by
    rintro before after rfl
    exact (Follows.empty top).addRecords before after rfl
  have h : Follows (addRecords {} rs) top taken := (hrun rs [] (List.append_nil rs).symm).1
  have hwf : g.WellFormed := h.filling.toWellFormed
  have hcalls : ∀ c, g.Calls c ↔ Made top taken c := h.calls
  refine ⟨fun before r after heq => ?_, fun before after heq => (hrun before after heq).1.depth, hwf,
    ⟨h.methods, fun i m => hwf.methodId⟩, ⟨h.classes, fun i c => hwf.classId⟩, h.entrypoints,
    fun before r after heq htop => (Nests.accepted top rs).exists_caller heq htop,
    fun i m hm e => ?_⟩
  · obtain ⟨hbefore, htop⟩ := hrun before (r :: after) heq
    rw [startLevel_cons] at htop
    refine ⟨fun hr => ?_, fun hr => ?_⟩
    · obtain ⟨b', heq, -⟩ := hbefore.addRecord_of_fits htop hr
      rw [heq]
    · obtain ⟨m, heq⟩ := hbefore.addRecord_of_not_fits htop hr
      exact ⟨m, by rw [heq]⟩
  · have hedge := hwf.hasEdge_iff_calls (e := e)
    simp only [hcalls] at hedge
    intro isMade
    rw [hwf.mem_forward_iff_hasEdge hm, hwf.reverse hm, hedge]
    exact ⟨Iff.rfl, Iff.rfl⟩

end Builder

end CallAtlas.Graph
