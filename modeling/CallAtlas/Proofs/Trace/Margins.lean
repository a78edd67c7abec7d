import CallAtlas.Proofs.Trace.Grammar
import CallAtlas.Text.Blank

/-!
# Margins of trace lines

How much of a line its margin decides: the depth of its record, and nothing else.

* `IsMargin`, `IsRealigned`, `IsIndented`: what a margin is made of; a line with another margin of as many whole
  levels, and a line one level further in.
* `Fields.ofLine_append`: the parts of a line are those of what follows its margin.
* `ReadsLower`: a second line is read as the first one, so many levels lower, or is refused for the same cause.
  `ReadsLower.of_margins`: so it is if the margins alone tell the lines apart.
* `depth_of_parseLine`, `parseLine_of_isMargin`: the depth of a record is that of the width of the margin, and a line
  of no width may be margin only.
-/

namespace CallAtlas.Trace

open Text (allBlank dropTrailing)

/-- The text may stand as the margin of a line: blanks, and what is not ASCII. -/
def IsMargin (m : List Char) : Prop :=
  ∀ c ∈ m, c = ' ' ∨ 0x80 ≤ c.toNat

/-- The line has a margin and more, and the second one differs from it in its margin only, with as many whole
levels. Neither is blank. -/
structure IsRealigned (line line' : String) : Prop where
  margins : ∃ margin margin' : List Char, ∃ c rest, IsMargin margin ∧ IsMargin margin' ∧
    c ≠ ' ' ∧ c.toNat < 0x80 ∧ line.toList = margin ++ c :: rest ∧ line'.toList = margin' ++ c :: rest ∧
    margin'.length / levelWidth = margin.length / levelWidth
  notBlank : allBlank line = false
  notBlank' : allBlank line' = false

/-- The second line has one level of margin before what the line has; a blank line stays as it is. -/
def IsIndented (line line' : String) : Prop :=
  allBlank line = true ∧ line' = line ∨
    allBlank line = false ∧
      ∃ level, IsMargin level ∧ level.length = levelWidth ∧ line'.toList = level ++ line.toList

/-- The record, so many levels lower. -/
def Record.lower (levels : Int) (r : Record) : Record :=
  { r with depth := r.depth + levels }

theorem Record.lower_zero (r : Record) : r.lower 0 = r := by
  simp [Record.lower]

/-- The refusal, without the text refused. -/
def Malformed.withoutText (m : Malformed) : Malformed :=
  { m with line := "" }

/-- The second line is blank exactly if the first one is. If they are not, it is read as that one, so many
levels lower, or refused for the same cause. -/
structure ReadsLower (levels : Int) (line line' : String) : Prop where
  blank : allBlank line' = allBlank line
  read : allBlank line = false → ∀ lineNo,
    (∃ r, parseLine line lineNo = .ok r ∧ parseLine line' lineNo = .ok (r.lower levels)) ∨
    ∃ m m', parseLine line lineNo = .error m ∧ parseLine line' lineNo = .error m' ∧
      m'.withoutText = m.withoutText

theorem ReadsLower.refl (line : String) : ReadsLower 0 line line where
  blank := rfl
  read _ lineNo := by
    cases h : parseLine line lineNo with
    | ok r => exact .inl ⟨r, rfl, by rw [r.lower_zero]⟩
    | error m => exact .inr ⟨m, m, rfl, rfl, rfl⟩

/-! ## The margin and what follows -/

section

variable {margin margin' rest : List Char}

theorem IsMargin.isMargin (h : IsMargin margin) : ∀ c ∈ margin, isMargin c = true :=
  fun c hc => isMargin_iff.2 (h c hc)

theorem IsMargin.append (h : IsMargin margin) (h' : IsMargin margin') : IsMargin (margin ++ margin') := by
  intro c hc
  rcases List.mem_append.1 hc with hc | hc
  · exact h c hc
  · exact h' c hc

theorem isMargin_takeWhile (line : List Char) : IsMargin (line.takeWhile isMargin) :=
  fun c hc => isMargin_iff.1 (List.all_eq_true.1 List.all_takeWhile c hc)

/-- A margin holds no line end. -/
theorem dropTrailing_append_margin (h : IsMargin margin) (rest : List Char) :
    dropTrailing isLineEnd (margin ++ rest) = margin ++ dropTrailing isLineEnd rest := by
  induction margin with
  | nil => rfl
  | cons c margin ih =>
    have hc : isLineEnd c = false := by
      rw [Bool.eq_false_iff, ne_eq, isLineEnd_iff]
      rintro (rfl | rfl) <;> simpa using h _ List.mem_cons_self
    have hcons := Text.dropTrailing_append_cons [] hc (margin ++ rest)
    rw [List.nil_append, List.nil_append] at hcons
    rw [List.cons_append, hcons, ih fun x hx => h x (List.mem_cons_of_mem c hx), List.cons_append]

/-- What follows a margin begins as it did when the line ends are gone. -/
theorem head?_dropTrailing (hrest : ∀ c ∈ rest.head?, isMargin c = false) :
    ∀ c ∈ (dropTrailing isLineEnd rest).head?, isMargin c = false := by
  obtain ⟨run, hrun, -⟩ := Text.exists_eq_dropTrailing_append isLineEnd rest
  intro c hc
  refine hrest c ?_
  rw [hrun, List.head?_append, Option.mem_def.1 hc]
  rfl

theorem takeWhile_append_margin (h : IsMargin margin) (hrest : ∀ c ∈ rest.head?, isMargin c = false) :
    (margin ++ rest).takeWhile isMargin = margin ∧ (margin ++ rest).dropWhile isMargin = rest := by
  rw [List.takeWhile_append_of_pos h.isMargin, List.dropWhile_append_of_pos h.isMargin]
  cases rest with
  | nil => simp
  | cons c rest => simp [hrest c rfl]

/-- The parts of a line are those of what follows its margin, with that margin. -/
theorem Fields.ofLine_append (h : IsMargin margin) (hrest : ∀ c ∈ rest.head?, isMargin c = false) :
    Fields.ofLine (margin ++ rest) = (Fields.ofLine rest).map fun f => { f with margin } := by
  obtain ⟨htake, hdrop⟩ := takeWhile_append_margin h hrest
  have hnone : IsMargin [] := by simp [IsMargin]
  have hdrop' : rest.dropWhile isMargin = rest := (takeWhile_append_margin hnone hrest).2
  rw [Fields.ofLine, Fields.ofLine, htake, hdrop, hdrop']
  -- Both sides search the same texts in the same order.
  cases Text.cutFirst '.' rest with
  | none => rfl
  | some atPoint =>
    obtain ⟨beforePoint, afterPoint⟩ := atPoint
    dsimp only
    cases Text.cutLast ' ' beforePoint with
    | none => rfl
    | some atBlank =>
      obtain ⟨callType, classStart⟩ := atBlank
      dsimp only
      cases Text.cutFirst '(' (classStart ++ '.' :: afterPoint) with
      | none => rfl
      | some atOpen =>
        obtain ⟨path, parameters⟩ := atOpen
        dsimp only
        cases Text.cutLast '.' path with
        | none => rfl
        | some atLast =>
          dsimp only
          cases Text.cutFirst ':' parameters with
          | none => rfl
          | some atColon => rfl

theorem parseLine_append {line : String} (h : IsMargin margin)
    (hrest : ∀ c ∈ rest.head?, isMargin c = false) (hline : line.toList = margin ++ rest)
    (lineNo : Option Int) :
    (∃ f, Fields.ofLine (dropTrailing isLineEnd rest) = .ok f ∧
      parseLine line lineNo = .ok ({ f with margin }.record lineNo)) ∨
    ∃ cause text, Fields.ofLine (dropTrailing isLineEnd rest) = .error cause ∧
      parseLine line lineNo = .error ⟨cause, lineNo, text⟩ := by
  unfold parseLine
  dsimp only
  rw [hline, dropTrailing_append_margin h, Fields.ofLine_append h (head?_dropTrailing hrest)]
  cases Fields.ofLine (dropTrailing isLineEnd rest) with
  | ok f => exact .inl ⟨f, rfl, rfl⟩
  | error cause => exact .inr ⟨cause, _, rfl, rfl⟩

/-- Lines that their margins alone tell apart are read alike, but for the depth. -/
theorem ReadsLower.of_margins {line line' : String} {levels : Int} (h : IsMargin margin)
    (h' : IsMargin margin') (hrest : ∀ c ∈ rest.head?, isMargin c = false)
    (hline : line.toList = margin ++ rest) (hline' : line'.toList = margin' ++ rest)
    (hdepth : depthOf margin'.length = depthOf margin.length + levels)
    (hblank : allBlank line' = allBlank line) : ReadsLower levels line line' where
  blank := hblank
  read _ lineNo := by
    rcases parseLine_append h hrest hline lineNo with ⟨f, hf, hread⟩ | ⟨cause, text, hcause, hread⟩ <;>
      rcases parseLine_append h' hrest hline' lineNo with ⟨f', hf', hread'⟩ | ⟨cause', text', hcause', hread'⟩
    · obtain rfl : f = f' := Except.ok.inj (hf.symm.trans hf')
      refine .inl ⟨_, hread, ?_⟩
      rw [hread', Fields.record, hdepth]
      rfl
    · rw [hf] at hcause'
      cases hcause'
    · rw [hcause] at hf'
      cases hf'
    · obtain rfl : cause = cause' := Except.error.inj (hcause.symm.trans hcause')
      exact .inr ⟨_, _, hread, hread', rfl⟩

end

/-! ## Lines with other margins -/

variable {line line' : String}

theorem IsRealigned.readsLower (h : IsRealigned line line') : ReadsLower 0 line line' := by
  obtain ⟨⟨margin, margin', c, rest, hm, hm', hblank, hascii, hline, hline', hlevels⟩, hb, hb'⟩ := h
  have hc : isMargin c = false := by
    rw [Bool.eq_false_iff, ne_eq, isMargin_iff]
    exact fun hc => hc.elim hblank (by omega)
  have hrest : ∀ d ∈ (c :: rest).head?, isMargin d = false := by simpa using hc
  refine .of_margins hm hm' hrest hline hline' ?_ (hb'.trans hb.symm)
  rw [depthOf, depthOf, hlevels, Int.add_zero]

theorem IsIndented.readsLower (h : IsIndented line line') : ReadsLower 1 line line' := by
  rcases h with ⟨hb, rfl⟩ | ⟨hb, level, hlevel, hlength, hline'⟩
  · exact ⟨rfl, fun hb' => absurd hb (by simp [hb'])⟩
  · have hline := (List.takeWhile_append_dropWhile (p := isMargin) (l := line.toList)).symm
    have hmargin := isMargin_takeWhile line.toList
    have hblank : allBlank line' = false := by
      rw [allBlank] at hb
      rw [allBlank, hline', List.all_append, hb, Bool.and_false]
    have hrest : ∀ c ∈ (line.toList.dropWhile isMargin).head?, isMargin c = false := by
      intro c hc
      have hnot := List.head?_dropWhile_not isMargin line.toList
      rw [Option.mem_def.1 hc] at hnot
      simpa using hnot
    refine .of_margins hmargin (hlevel.append hmargin) hrest hline ?_ ?_ (hblank.trans hb.symm)
    · rw [hline', List.append_assoc, ← hline]
    · rw [List.length_append, hlength, Nat.add_comm, depthOf_add_levelWidth]

/-! ## Widths -/

theorem indent_text {f : Fields} (h : f.WellFormed) : indent f.text = f.margin.length := by
  obtain ⟨c, cs, hc, hmargin⟩ := h.callType.exists_cons
  have htext : f.text = f.margin ++ c :: (cs ++ ' ' :: f.className ++ '.' :: f.signature ++ ':' :: f.rest) := by
    simp [Fields.text, hc]
  have hnot : (f.text.all isMargin) = false := by
    rw [htext, List.all_append, List.all_cons, hmargin, Bool.false_and, Bool.and_false]
  have hall : ∀ c ∈ f.margin, isMargin c = true := fun c hc => isMargin_iff.2 (h.margin c hc)
  rw [indent, hnot, if_neg Bool.false_ne_true, htext, (takeWhile_margin hall hmargin _).1]

/-- The depth of a record is that of its line's margin. -/
theorem depth_of_parseLine {lineNo : Option Int} {r : Record} (h : parseLine line lineNo = .ok r) :
    r.depth = depthOf (indent (dropTrailing isLineEnd line.toList)) := by
  unfold parseLine at h
  dsimp only at h
  split at h <;> cases h
  next f hf =>
    obtain ⟨hwf, htext⟩ := Fields.wellFormed_of_ofLine hf
    rw [← htext, indent_text hwf]
    rfl

/-- A line that is margin only has no width, and is refused for want of a point. -/
theorem parseLine_of_isMargin (h : IsMargin (dropTrailing isLineEnd line.toList)) (lineNo : Option Int) :
    indent (dropTrailing isLineEnd line.toList) = 0 ∧
      ∃ text, parseLine line lineNo = .error ⟨.noPoint, lineNo, text⟩ := by
  have hall : (dropTrailing isLineEnd line.toList).all isMargin = true := List.all_eq_true.2 h.isMargin
  refine ⟨if_pos hall, String.ofList (dropTrailing isLineEnd line.toList), ?_⟩
  have hnothing : ∀ c ∈ ([] : List Char).head?, isMargin c = false := nofun
  have hrest := (takeWhile_append_margin h hnothing).2
  rw [List.append_nil] at hrest
  unfold parseLine
  dsimp only
  rw [Fields.ofLine, hrest]
  rfl

/-- No line stands above column zero. -/
theorem le_depth_of_parseLine {lineNo : Option Int} {r : Record} (h : parseLine line lineNo = .ok r) :
    -1 ≤ r.depth := by
  rw [depth_of_parseLine h]
  unfold depthOf levelWidth
  omega

/-- A line is longer than it stands deep. -/
theorem natAbs_depth_lt_of_parseLine {lineNo : Option Int} {r : Record} (h : parseLine line lineNo = .ok r) :
    r.depth.natAbs < line.length := by
  obtain ⟨run, hrun, -⟩ := Text.exists_eq_dropTrailing_append isLineEnd line.toList
  unfold parseLine at h
  dsimp only at h
  split at h <;> cases h
  next f hf =>
    obtain ⟨-, htext⟩ := Fields.wellFormed_of_ofLine hf
    have hlength := congrArg List.length hrun
    rw [← htext, Fields.text, String.length_toList] at hlength
    simp only [List.length_append, List.length_cons] at hlength
    show (depthOf f.margin.length).natAbs < line.length
    unfold depthOf levelWidth
    omega

end CallAtlas.Trace
