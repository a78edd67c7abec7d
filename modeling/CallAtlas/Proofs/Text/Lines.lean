import CallAtlas.Text.Lines

/-!
# Lines are read back

* `ended`: the text of lines, all with the same end; `endings`: the ends that a line may have.
* `LineReader.IsBetween`: the machine stands between two lines; `IsBetween.line_ended`: so it does after one line
  more.
* `lines_ended`: the lines of that text are those it was made of, so that no other character ends a line and an
  empty line counts.
-/

namespace CallAtlas.Text

/-- The ends that a line may have. -/
def endings : List (List Char) :=
  [['\n'], ['\r', '\n'], ['\r']]

/-- The text of the lines, each with that end. -/
def ended (ending : List Char) (lines : List String) : List Char :=
  lines.flatMap fun line => line.toList ++ ending

/-- A line without line ends. -/
def IsInner (line : String) : Prop :=
  '\r' ∉ line.toList ∧ '\n' ∉ line.toList

instance (line : String) : Decidable (IsInner line) :=
  inferInstanceAs (Decidable (_ ∧ _))

namespace LineReader

/-- The machine has read the lines `done`, last one first, and has not begun another one. If it may take a line
feed for the second half of an end, lines end with a carriage return alone. -/
structure IsBetween (ending : List Char) (done : List String) (r : LineReader) : Prop where
  done : r.done = done
  line : r.line = []
  afterReturn : r.afterReturn = true → ending = ['\r']

/-- Any other character goes to the line begun. -/
theorem foldl_step_of_notMem {s : List Char} (hr : '\r' ∉ s) (hn : '\n' ∉ s) (done : List String)
    (begun : List Char) (afterReturn : Bool) : ∃ after, (after = true → afterReturn = true) ∧
      s.foldl step ⟨done, begun, afterReturn⟩ = ⟨done, s.reverse ++ begun, after⟩ := by
  induction s generalizing begun afterReturn with
  | nil => exact ⟨afterReturn, id, rfl⟩
  | cons c s ih =>
    simp only [List.mem_cons, not_or] at hr hn
    have hstep : step ⟨done, begun, afterReturn⟩ c = ⟨done, c :: begun, false⟩ := by
      rw [step, if_neg (Ne.symm hr.1), if_neg (Ne.symm hn.1)]
    obtain ⟨after, hafter, heq⟩ := ih hr.2 hn.2 (c :: begun) false
    refine ⟨after, fun h => absurd (hafter h) Bool.false_ne_true, ?_⟩
    rw [List.foldl_cons, hstep, heq, List.reverse_cons, List.append_assoc, List.singleton_append]

/-- A line and its end are read as one line. -/
theorem IsBetween.line_ended {ending : List Char} {done : List String} {r : LineReader}
    (h : r.IsBetween ending done) (hending : ending ∈ endings) {line : String} (hline : IsInner line) :
    ((line.toList ++ ending).foldl step r).IsBetween ending (line :: done) := by
  obtain ⟨done', begun, afterReturn⟩ := r
  obtain ⟨rfl, rfl, hreturn⟩ := h
  obtain ⟨after, hafter, heq⟩ := foldl_step_of_notMem hline.1 hline.2 done' [] afterReturn
  have hline' : String.ofList (line.toList.reverse ++ []).reverse = line := by simp
  rw [List.foldl_append, heq]
  simp only [endings, List.mem_cons, List.not_mem_nil, or_false] at hending
  rcases hending with rfl | rfl | rfl
  · -- A carriage return before would have been the end of a line.
    have hfalse : after = false := by
      cases after with
      | false => rfl
      | true => simpa using hreturn (hafter rfl)
    subst hfalse
    exact ⟨congrArg (· :: done') hline', rfl, nofun⟩
  · exact ⟨congrArg (· :: done') hline', rfl, nofun⟩
  · exact ⟨congrArg (· :: done') hline', rfl, fun _ => rfl⟩

theorem IsBetween.ended {ending : List Char} {done : List String} {r : LineReader}
    (h : r.IsBetween ending done) (hending : ending ∈ endings) {lines : List String}
    (hlines : ∀ line ∈ lines, IsInner line) :
    ((ended ending lines).foldl step r).IsBetween ending (lines.reverse ++ done) := by
  induction lines generalizing r done with
  | nil => exact h
  | cons line rest ih =>
    rw [List.forall_mem_cons] at hlines
    have hnext := ih (h.line_ended hending hlines.1) hlines.2
    rw [← List.foldl_append] at hnext
    rw [List.reverse_cons, List.append_assoc, List.singleton_append]
    exact hnext

end LineReader

/-- **Lines are read back from their text.** -/
theorem lines_ended {ending : List Char} (hending : ending ∈ endings) {ls : List String}
    (hls : ∀ line ∈ ls, IsInner line) : lines (ended ending ls) = ls := by
  have hstart : LineReader.IsBetween ending [] {} := ⟨rfl, rfl, nofun⟩
  obtain ⟨hdone, hline, -⟩ := hstart.ended hending hls
  rw [lines, LineReader.finish, if_pos hline, hdone, List.append_nil, List.reverse_reverse]

end CallAtlas.Text
