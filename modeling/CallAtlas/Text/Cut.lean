/-!
# Cutting text at a character

- `cutFirst c s` splits `s` at its first `c`, `cutLast c s` at its last one; both leave the `c` out.
- `cutFirst_eq_some_iff`, `cutLast_eq_some_iff`: the parts put together again are the text, and the
  part on the searched side has no `c`.
- `pieces c s` are the parts of `s` between its `c`s.
- `dropTrailing p s` drops the longest run at the end of `s` whose characters satisfy `p`.
-/

namespace CallAtlas.Text

/-- The text before and after the first `c`. -/
def cutFirst (c : Char) : List Char → Option (List Char × List Char)
  | [] => none
  | x :: xs => if x = c then some ([], xs) else (cutFirst c xs).map fun p => (x :: p.1, p.2)

/-- The text before and after the last `c`. -/
def cutLast (c : Char) : List Char → Option (List Char × List Char)
  | [] => none
  | x :: xs =>
    match cutLast c xs with
    | some (before, after) => some (x :: before, after)
    | none => if x = c then some ([], xs) else none

/-- The parts of the text between the characters `c`. -/
def pieces (c : Char) : List Char → List (List Char)
  | [] => [[]]
  | x :: xs =>
    if x = c then [] :: pieces c xs
    else
      match pieces c xs with
      | [] => [[x]]
      | p :: ps => (x :: p) :: ps

/-- The text without the longest run of characters satisfying `p` at its end. -/
def dropTrailing (p : Char → Bool) (s : List Char) : List Char :=
  (s.reverse.dropWhile p).reverse

/-- The text without the runs of characters satisfying `p` at its two ends. -/
def trim (p : Char → Bool) (s : List Char) : List Char :=
  dropTrailing p (s.dropWhile p)

theorem cutFirst_eq_none_iff {c : Char} {s : List Char} : cutFirst c s = none ↔ c ∉ s := by
  induction s with
  | nil => simp [cutFirst]
  | cons x xs ih => by_cases h : x = c <;> simp [cutFirst, h, ih, Ne.symm]

theorem cutFirst_append {c : Char} {before : List Char} (h : c ∉ before) (after : List Char) :
    cutFirst c (before ++ c :: after) = some (before, after) := by
  induction before with
  | nil => simp [cutFirst]
  | cons x xs ih =>
    have hx : x ≠ c := fun e => h (by simp [e])
    simp [cutFirst, hx, ih fun e => h (by simp [e])]

theorem cutFirst_eq_some_iff {c : Char} {s before after : List Char} :
    cutFirst c s = some (before, after) ↔ s = before ++ c :: after ∧ c ∉ before := by
  refine ⟨fun h => ?_, fun h => h.1 ▸ cutFirst_append h.2 after⟩
  induction s generalizing before with
  | nil => simp [cutFirst] at h
  | cons x xs ih =>
    by_cases hx : x = c
    · obtain ⟨rfl, rfl⟩ : before = [] ∧ after = xs := by simpa [cutFirst, hx, eq_comm] using h
      simp [hx]
    · simp only [cutFirst, hx, if_false, Option.map_eq_some_iff, Prod.mk.injEq, Prod.exists] at h
      obtain ⟨b, a, hba, rfl, rfl⟩ := h
      obtain ⟨rfl, hb⟩ := ih hba
      exact ⟨rfl, by simp [hb, Ne.symm hx]⟩

theorem cutLast_eq_none_iff {c : Char} {s : List Char} : cutLast c s = none ↔ c ∉ s := by
  induction s with
  | nil => simp [cutLast]
  | cons x xs ih =>
    cases h : cutLast c xs with
    | none => by_cases hx : x = c <;> simp [cutLast, h, hx, ih.1 h, Ne.symm]
    | some p =>
      have : c ∈ xs := Decidable.byContradiction fun hc => by simp [ih.2 hc] at h
      simp [cutLast, h, this]

theorem cutLast_append {c : Char} (before : List Char) {after : List Char} (h : c ∉ after) :
    cutLast c (before ++ c :: after) = some (before, after) := by
  induction before with
  | nil => simp [cutLast, cutLast_eq_none_iff.2 h]
  | cons x xs ih => simp [cutLast, ih]

theorem cutLast_eq_some_iff {c : Char} {s before after : List Char} :
    cutLast c s = some (before, after) ↔ s = before ++ c :: after ∧ c ∉ after := by
  refine ⟨fun h => ?_, fun h => h.1 ▸ cutLast_append before h.2⟩
  induction s generalizing before with
  | nil => simp [cutLast] at h
  | cons x xs ih =>
    cases hxs : cutLast c xs with
    | none =>
      by_cases hx : x = c
      · obtain ⟨rfl, rfl⟩ : before = [] ∧ after = xs := by simpa [cutLast, hxs, hx, eq_comm] using h
        exact ⟨by simp [hx], cutLast_eq_none_iff.1 hxs⟩
      · simp [cutLast, hxs, hx] at h
    | some p =>
      obtain ⟨b, a⟩ := p
      simp only [cutLast, hxs, Option.some.injEq, Prod.mk.injEq] at h
      obtain ⟨rfl, rfl⟩ := h
      obtain ⟨rfl, ha⟩ := ih hxs
      exact ⟨rfl, ha⟩

/-! ## Runs at the end -/

/-- A character that does not satisfy `p` ends the run. -/
theorem dropTrailing_append_cons {p : Char → Bool} (s : List Char) {c : Char} (hc : p c = false)
    (t : List Char) : dropTrailing p (s ++ c :: t) = s ++ c :: dropTrailing p t := by
  unfold dropTrailing
  rw [List.reverse_append, List.reverse_cons, List.append_assoc, List.dropWhile_append]
  split
  · rename_i h
    rw [List.isEmpty_iff.1 h]
    simp [hc]
  · simp

/-- What `dropTrailing p` drops satisfies `p` throughout. -/
theorem exists_eq_dropTrailing_append (p : Char → Bool) (s : List Char) :
    ∃ run, s = dropTrailing p s ++ run ∧ ∀ c ∈ run, p c = true := by
  refine ⟨(s.reverse.takeWhile p).reverse, ?_, fun c hc => ?_⟩
  · rw [dropTrailing, ← List.reverse_append, List.takeWhile_append_dropWhile, List.reverse_reverse]
  · exact List.all_eq_true.1 List.all_takeWhile c (List.mem_reverse.1 hc)

/-- What `dropTrailing p` leaves does not end with a character that satisfies `p`. -/
theorem not_of_getLast?_dropTrailing {p : Char → Bool} {s : List Char} {c : Char}
    (h : (dropTrailing p s).getLast? = some c) : p c = false := by
  rw [dropTrailing, List.getLast?_reverse] at h
  have := List.head?_dropWhile_not p s.reverse
  rw [h] at this
  simpa using this

end CallAtlas.Text
